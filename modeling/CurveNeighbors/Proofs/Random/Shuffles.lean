import CurveNeighbors.Proofs.Random.Relabeling
import CurveNeighbors.Proofs.Random.Sampling
import Mathlib.Data.List.Permutation

/-!
# Shuffles and arrangements

A shuffle draws once for each place but the first, up to that place. What stays at a place is
the row that was drawn for it, so the draws can be read off the arrangement again: different
draws arrange the rows differently. There are as many sequences of draws as arrangements, and
so every arrangement comes of exactly one of them.
-/

namespace CurveNeighbors

namespace Sampling

/-- The sequences of draws for a shuffle of the rows below a number. -/
def shuffleDraws (population : Nat) : Finset (List Nat) :=
  drawsUpTo (shuffleLimits (population - 1))

theorem card_drawsUpTo_shuffleLimits (place : Nat) :
    (drawsUpTo (shuffleLimits place)).card = (place + 1).factorial := by
  rw [card_drawsUpTo]
  induction place with
  | zero => rfl
  | succ place ih => rw [shuffleLimits, List.map_cons, List.prod_cons, ih, ← Nat.factorial_succ]

theorem card_shuffleDraws {population : Nat} (some : 0 < population) :
    (shuffleDraws population).card = population.factorial := by
  rw [shuffleDraws, card_drawsUpTo_shuffleLimits, Nat.sub_add_cancel some]

/-! ## One swap -/

variable {place other : Nat} {rows shuffled : Array Nat} {draws others : List Nat}

theorem getElem?_swapped (inside : place < rows.size) (otherInside : other < rows.size) :
    (rows.swapIfInBounds place other)[place]? = rows[other]? := by
  simp [Array.swapIfInBounds, inside, otherInside]

theorem getElem?_not_swapped {index : Nat} (differs : index ≠ place) (alsoDiffers : index ≠ other) :
    (rows.swapIfInBounds place other)[index]? = rows[index]? := by
  unfold Array.swapIfInBounds
  split
  · split
    · simp [Array.getElem?_swap, differs.symm, alsoDiffers.symm]
    · rfl
  · rfl

/-! ## All swaps -/

/-- A shuffle leaves the places behind the one that it starts with as they are. -/
theorem exists_shuffleFrom (isSequence : draws ∈ drawsUpTo (shuffleLimits place))
    (rows : Array Nat) :
    ∃ shuffled, shuffleFrom place rows draws = some (shuffled, []) ∧
      ∀ index > place, shuffled[index]? = rows[index]? := by
  induction place generalizing draws rows with
  | zero =>
      cases mem_drawsUpTo_nil.mp isSequence
      exact ⟨rows, rfl, fun _ _ => rfl⟩
  | succ place ih =>
      rcases mem_drawsUpTo_cons.mp isSequence with ⟨first, within, rest, isRest, rfl⟩
      rcases ih isRest (rows.swapIfInBounds (place + 1) first) with ⟨shuffled, run, kept⟩
      refine ⟨shuffled, run, ?_⟩
      intro index behind
      rw [kept index (by omega), getElem?_not_swapped (by omega) (by omega)]

/-- The draws can be read off the arrangement. -/
theorem eq_of_shuffleFrom (different : rows.toList.Nodup) (inside : place < rows.size)
    (isSequence : draws ∈ drawsUpTo (shuffleLimits place))
    (otherIsSequence : others ∈ drawsUpTo (shuffleLimits place))
    (equal : shuffleFrom place rows draws = shuffleFrom place rows others) : draws = others := by
  induction place generalizing draws others rows with
  | zero => rw [mem_drawsUpTo_nil.mp isSequence, mem_drawsUpTo_nil.mp otherIsSequence]
  | succ place ih =>
      rcases mem_drawsUpTo_cons.mp isSequence with ⟨first, within, rest, isRest, rfl⟩
      rcases mem_drawsUpTo_cons.mp otherIsSequence with ⟨second, alsoWithin, more, isMore, rfl⟩
      replace equal : shuffleFrom place (rows.swapIfInBounds (place + 1) first) rest =
        shuffleFrom place (rows.swapIfInBounds (place + 1) second) more := equal
      have sameDraw : first = second := by
        rcases exists_shuffleFrom isRest (rows.swapIfInBounds (place + 1) first) with
          ⟨shuffled, run, kept⟩
        rcases exists_shuffleFrom isMore (rows.swapIfInBounds (place + 1) second) with
          ⟨alsoShuffled, alsoRun, alsoKept⟩
        rw [run, alsoRun] at equal
        cases equal
        have settled := (kept (place + 1) (Nat.lt_succ_self _)).symm.trans
          (alsoKept (place + 1) (Nat.lt_succ_self _))
        rw [getElem?_swapped inside (by omega), getElem?_swapped inside (by omega),
          ← Array.getElem?_toList, ← Array.getElem?_toList] at settled
        exact (List.getElem?_inj (by simp; omega) different).mp settled
      subst sameDraw
      have stillDifferent : (rows.swapIfInBounds (place + 1) first).toList.Nodup :=
        (Array.perm_iff_toList_perm.mp (Selection.swapIfInBounds_perm ..)).nodup_iff.mpr different
      rw [ih stillDifferent (by simp; omega) isRest isMore equal]

/-! ## Arrangements -/

/-- All arrangements of the rows below a number. -/
def arrangements (population : Nat) : Finset (List Nat) :=
  (List.range population).permutations.toFinset

variable {population : Nat}

theorem mem_arrangements {arrangement : List Nat} :
    arrangement ∈ arrangements population ↔ arrangement.Perm (List.range population) := by
  simp [arrangements, List.mem_permutations]

theorem card_arrangements (population : Nat) :
    (arrangements population).card = population.factorial := by
  rw [arrangements, List.toFinset_card_of_nodup (List.nodup_permutations _ List.nodup_range),
    List.length_permutations, List.length_range]

/-- The arrangement that a shuffle comes to. -/
def arrangementOf (population : Nat) (draws : List Nat) : List Nat :=
  ((shuffle population draws).map Prod.fst).getD []

theorem exists_shuffled (isSequence : draws ∈ shuffleDraws population) :
    ∃ shuffled, shuffleFrom (population - 1) (Array.range population) draws = some (shuffled, []) ∧
      shuffle population draws = some (shuffled.toList, []) ∧
      arrangementOf population draws = shuffled.toList := by
  rcases exists_shuffleFrom isSequence (Array.range population) with ⟨shuffled, run, _⟩
  have found : shuffle population draws = some (shuffled.toList, []) := by
    rw [shuffle, run]
    rfl
  exact ⟨shuffled, run, found, by rw [arrangementOf, found]; rfl⟩

theorem shuffle_eq (isSequence : draws ∈ shuffleDraws population) :
    shuffle population draws = some (arrangementOf population draws, []) := by
  rcases exists_shuffled isSequence with ⟨shuffled, _, found, arranged⟩
  rw [found, arranged]

theorem arrangementOf_mem (isSequence : draws ∈ shuffleDraws population) :
    arrangementOf population draws ∈ arrangements population :=
  mem_arrangements.mpr (shuffle_perm (shuffle_eq isSequence))

theorem arrangementOf_injOn (some : 0 < population) :
    Set.InjOn (arrangementOf population) (shuffleDraws population) := by
  intro draws isSequence others otherIsSequence equal
  rcases exists_shuffled isSequence with ⟨shuffled, run, _, arranged⟩
  rcases exists_shuffled otherIsSequence with ⟨alsoShuffled, alsoRun, _, alsoArranged⟩
  rw [arranged, alsoArranged] at equal
  rw [Array.toList_inj.mp equal, ← alsoRun] at run
  apply eq_of_shuffleFrom _ _ isSequence otherIsSequence run
  · simpa using List.nodup_range
  · simp
    omega

/-- Every arrangement comes of one sequence of draws. -/
theorem image_arrangementOf (some : 0 < population) :
    (shuffleDraws population).image (arrangementOf population) =
      arrangements population := by
  apply Finset.eq_of_subset_of_card_le
  · intro arrangement isImage
    rcases Finset.mem_image.mp isImage with ⟨draws, isSequence, rfl⟩
    exact arrangementOf_mem isSequence
  · rw [Finset.card_image_of_injOn (arrangementOf_injOn some), card_shuffleDraws some,
      card_arrangements]

/-! ## The first rows of an arrangement -/

variable {size : Nat} {rows : Finset Nat}

theorem symmetric_arrangements (population size : Nat) :
    Symmetric population (arrangements population) fun arrangement rows =>
      some (arrangement.take size).toFinset = some rows where
  closed label isRelabeling arrangement isArrangement := by
    rw [mem_arrangements] at isArrangement ⊢
    refine (isArrangement.map label).trans ?_
    apply (List.subperm_of_subset (List.nodup_range.map isRelabeling.injective) _).perm_of_length_le
      (by simp)
    intro other isOther
    rcases List.mem_map.mp isOther with ⟨row, isRow, rfl⟩
    exact List.mem_range.mpr (isRelabeling.below row (List.mem_range.mp isRow))
  relabeled label _ arrangement _ rows given := by
    rw [← List.map_take, toFinset_map, Option.some_inj.mp given]

/-- As many arrangements begin with some rows as these and the other rows have arrangements of their
own. -/
theorem card_arrangements_of (isRows : rows ∈ (Finset.range population).powersetCard size) :
    ((arrangements population).filter fun arrangement =>
      (arrangement.take size).toFinset = rows).card =
        size.factorial * (population - size).factorial := by
  have possible := size_le_of_mem_powersetCard isRows
  have sized : ∀ arrangement ∈ arrangements population, ∀ found,
      some (arrangement.take size).toFinset = some found →
        found ∈ (Finset.range population).powersetCard size := by
    rintro arrangement isArrangement _ ⟨⟩
    have perm := mem_arrangements.mp isArrangement
    have different : (arrangement.take size).Nodup :=
      (perm.nodup_iff.mpr List.nodup_range).sublist (List.take_sublist ..)
    rw [Finset.mem_powersetCard, List.toFinset_card_of_nodup different, List.length_take,
      perm.length_eq, List.length_range]
    refine ⟨?_, Nat.min_eq_left possible⟩
    intro row isRow
    have isMember := List.mem_of_mem_take (List.mem_toFinset.mp isRow)
    simpa using perm.mem_iff.mp isMember
  have shares := (symmetric_arrangements population size).choose_mul_card sized isRows
  have whole := Nat.choose_mul_factorial_mul_factorial possible
  simp only [reduceCtorEq, Finset.filter_false, Finset.card_empty, Nat.zero_add, Option.some_inj,
    card_arrangements] at shares
  rw [Nat.mul_assoc, ← shares] at whole
  exact (Nat.eq_of_mul_eq_mul_left (Nat.choose_pos possible) whole).symm

/-- A large sample is drawn in as many ways as there are arrangements that begin with it. -/
theorem card_shuffled (some : 0 < population) (large : population < 2 * size) :
    ((shuffleDraws population).filter fun draws =>
      outcome (sample population size draws) = .some (rows, [])).card =
        ((arrangements population).filter fun arrangement =>
          (arrangement.take size).toFinset = rows).card := by
  rw [← image_arrangementOf some, Finset.filter_image, Finset.card_image_of_injOn]
  · apply congrArg Finset.card
    apply Finset.filter_congr
    intro draws isSequence
    rw [sample, if_neg (by omega), shuffle_eq isSequence]
    simp [outcome]
  · exact (arrangementOf_injOn some).mono (Finset.coe_subset.mpr (Finset.filter_subset _ _))

end Sampling

end CurveNeighbors
