import CurveNeighbors.Random.Sampling
import Mathlib.Algebra.BigOperators.Option
import Mathlib.Algebra.Group.End
import Mathlib.Data.Finset.Powerset
import Mathlib.Data.Finset.Prod
import Mathlib.Data.Nat.SuccPred
import Mathlib.Data.Set.Finite.Basic
import Mathlib.Logic.Equiv.Fintype

/-!
# Relabeling what is drawn

Rows are told apart by their numbers only, so rows with other numbers are drawn in the same
way. If the numbers below some limit are relabeled among themselves, all sequences of draws
are sequences of draws again, and what is collected from them is relabeled as well. Any set
of rows can be turned into any other of the same size, and so none is drawn in more ways than
another.
-/

namespace CurveNeighbors

/-! ## Sequences of draws -/

/-- The sequences of draws of which each is at most its limit. -/
def drawsUpTo : List Nat → Finset (List Nat)
  | [] => {[]}
  | limit :: limits =>
      (Finset.range (limit + 1) ×ˢ drawsUpTo limits).image fun drawn => drawn.1 :: drawn.2

@[simp]
theorem mem_drawsUpTo_nil {draws : List Nat} : draws ∈ drawsUpTo [] ↔ draws = [] := by
  simp [drawsUpTo]

@[simp]
theorem mem_drawsUpTo_cons {limit : Nat} {limits draws : List Nat} :
    draws ∈ drawsUpTo (limit :: limits) ↔
      ∃ first ≤ limit, ∃ rest ∈ drawsUpTo limits, draws = first :: rest := by
  simp [drawsUpTo, eq_comm, and_assoc]

theorem uncurried_cons_injective :
    Function.Injective fun drawn : Nat × List Nat => drawn.1 :: drawn.2 := by
  rintro ⟨first, rest⟩ ⟨other, others⟩ equal
  simpa using equal

theorem card_drawsUpTo (limits : List Nat) :
    (drawsUpTo limits).card = (limits.map fun limit => limit + 1).prod := by
  induction limits with
  | nil => rfl
  | cons limit limits ih =>
      rw [drawsUpTo, Finset.card_image_of_injective _ uncurried_cons_injective,
        Finset.card_product, ih]
      simp

/-- The sequences of some number of draws among the rows below a number. -/
def rowDraws (population count : Nat) : Finset (List Nat) :=
  drawsUpTo (List.replicate count (population - 1))

variable {population : Nat}

theorem card_rowDraws (some : 0 < population) (count : Nat) :
    (rowDraws population count).card = population ^ count := by
  simp [rowDraws, card_drawsUpTo, Nat.sub_add_cancel some]

theorem mem_rowDraws (some : 0 < population) {count : Nat} {draws : List Nat} :
    draws ∈ rowDraws population count ↔
      draws.length = count ∧ ∀ row ∈ draws, row < population := by
  rw [rowDraws]
  induction count generalizing draws with
  | zero => simp +contextual [List.length_eq_zero_iff]
  | succ count ih =>
      rw [List.replicate_succ, mem_drawsUpTo_cons]
      constructor
      · rintro ⟨first, within, rest, isRest, rfl⟩
        rcases ih.mp isRest with ⟨rfl, below⟩
        exact ⟨rfl, List.forall_mem_cons.mpr ⟨Nat.lt_of_le_pred some within, below⟩⟩
      · rintro ⟨length, below⟩
        rcases List.exists_cons_of_length_eq_add_one length with ⟨first, rest, rfl⟩
        rcases List.forall_mem_cons.mp below with ⟨within, below⟩
        exact ⟨first, Nat.le_pred_of_lt within, rest, ih.mpr ⟨by simpa using length, below⟩, rfl⟩

theorem size_le_of_mem_powersetCard {size : Nat} {rows : Finset Nat}
    (isRows : rows ∈ (Finset.range population).powersetCard size) : size ≤ population := by
  rcases Finset.mem_powersetCard.mp isRows with ⟨inside, rfl⟩
  simpa using Finset.card_le_card inside

/-! ## Labels -/

/-- New numbers for the rows below a limit, which are the old ones in another order. -/
structure IsRelabeling (population : Nat) (label : Nat → Nat) : Prop where
  injective : Function.Injective label
  below : ∀ row < population, label row < population

theorem exists_relabeling {rows others : Finset Nat}
    (inside : rows ⊆ Finset.range population) (otherInside : others ⊆ Finset.range population)
    (sameSize : rows.card = others.card) :
    ∃ label, IsRelabeling population label ∧ rows.image label = others := by
  have card {set : Finset Nat} (within : set ⊆ Finset.range population) :
      (set.subtype (· < population)).card = set.card := by
    rw [Finset.card_subtype, Finset.filter_true_of_mem]
    intro row isRow
    exact Finset.mem_range.mp (within isRow)
  have same : (rows.subtype (· < population)).card = (others.subtype (· < population)).card := by
    rw [card inside, card otherInside, sameSize]
  let matching := (Finset.equivOfCardEq same).extendSubtype
  have labeled {row : Nat} (below : row < population) :
      Equiv.Perm.ofSubtype matching row = matching ⟨row, below⟩ :=
    Equiv.Perm.ofSubtype_apply_of_mem matching below
  refine ⟨Equiv.Perm.ofSubtype matching, ⟨Equiv.injective _, ?_⟩, ?_⟩
  · intro row below
    rw [labeled below]
    exact (matching ⟨row, below⟩).property
  · apply Finset.eq_of_subset_of_card_le
    · intro other isOther
      rcases Finset.mem_image.mp isOther with ⟨row, isRow, rfl⟩
      have below := Finset.mem_range.mp (inside isRow)
      have matched := (Finset.equivOfCardEq same).extendSubtype_mem ⟨row, below⟩
        (Finset.mem_subtype.mpr isRow)
      rw [labeled below]
      exact Finset.mem_subtype.mp matched
    · rw [Finset.card_image_of_injective _ (Equiv.injective _), sameSize]

/-- Sequences of draws and the rows that they give, neither of which depends on the labels. -/
structure Symmetric (population : Nat) (sequences : Finset (List Nat))
    (gives : List Nat → Finset Nat → Prop) : Prop where
  closed : ∀ label, IsRelabeling population label → ∀ draws ∈ sequences,
    draws.map label ∈ sequences
  relabeled : ∀ label, IsRelabeling population label → ∀ draws ∈ sequences, ∀ rows,
    gives draws rows → gives (draws.map label) (rows.image label)

namespace Symmetric

variable {sequences : Finset (List Nat)} {gives : List Nat → Finset Nat → Prop}
  [∀ draws rows, Decidable (gives draws rows)] {rows others : Finset Nat}

theorem card_le (symmetric : Symmetric population sequences gives)
    (inside : rows ⊆ Finset.range population) (otherInside : others ⊆ Finset.range population)
    (sameSize : rows.card = others.card) :
    (sequences.filter (gives · rows)).card ≤ (sequences.filter (gives · others)).card := by
  rcases exists_relabeling inside otherInside sameSize with ⟨label, isRelabeling, rfl⟩
  apply Finset.card_le_card_of_injOn (List.map label)
  · intro draws isSequence
    rcases Finset.mem_filter.mp isSequence with ⟨isSequence, given⟩
    apply Finset.mem_filter.mpr
    exact ⟨symmetric.closed label isRelabeling draws isSequence,
      symmetric.relabeled label isRelabeling draws isSequence rows given⟩
  · exact (List.map_injective_iff.mpr isRelabeling.injective).injOn

/-- Any two sets of rows of the same size are given by the same number of sequences. -/
theorem card_eq (symmetric : Symmetric population sequences gives) {size : Nat}
    (isRows : rows ∈ (Finset.range population).powersetCard size)
    (isOther : others ∈ (Finset.range population).powersetCard size) :
    (sequences.filter (gives · rows)).card = (sequences.filter (gives · others)).card := by
  rcases Finset.mem_powersetCard.mp isRows with ⟨inside, count⟩
  rcases Finset.mem_powersetCard.mp isOther with ⟨otherInside, otherCount⟩
  apply Nat.le_antisymm
  · exact symmetric.card_le inside otherInside (count.trans otherCount.symm)
  · exact symmetric.card_le otherInside inside (otherCount.trans count.symm)

/-- If sequences give sets of rows of a certain size or none at all, each such set is given by an
equal share of those that give one. -/
theorem choose_mul_card {given : List Nat → Option (Finset Nat)}
    (symmetric : Symmetric population sequences fun draws rows => given draws = some rows)
    {size : Nat} (sized : ∀ draws ∈ sequences, ∀ found, given draws = some found →
      found ∈ (Finset.range population).powersetCard size)
    (isRows : rows ∈ (Finset.range population).powersetCard size) :
    (sequences.filter (given · = none)).card +
      population.choose size * (sequences.filter (given · = some rows)).card = sequences.card := by
  have equal : ∀ others ∈ (Finset.range population).powersetCard size,
      (sequences.filter (given · = some others)).card =
        (sequences.filter (given · = some rows)).card := by
    intro others isOther
    exact symmetric.card_eq isOther isRows
  have among : Set.MapsTo given sequences
      (Finset.insertNone ((Finset.range population).powersetCard size)) := by
    intro draws isSequence
    exact Finset.mem_insertNone.mpr (sized draws isSequence)
  rw [Finset.card_eq_sum_card_fiberwise among, Finset.sum_insertNone, Finset.sum_const_nat equal,
    Finset.card_powersetCard, Finset.card_range]

end Symmetric

/-! ## Collecting -/

namespace Sampling

variable {size : Nat}

/-- The set of the rows that are found, and what is left of the source. -/
def outcome (result : Option (List Nat × List Nat)) : Option (Finset Nat × List Nat) :=
  result.map fun found => (found.1.toFinset, found.2)

section

variable {σ : Type} [BoundedDraws σ]

/-- Gathers rows, but gives up after a number of attempts. -/
def collect (population size : Nat) :
    (attempts : Nat) → (rows : List Nat) → σ → Option (List Nat × σ)
  | 0, rows, source => if size ≤ rows.length then some (rows, source) else none
  | attempts + 1, rows, source =>
      if size ≤ rows.length then some (rows, source)
      else do
        let (row, source) ← BoundedDraws.upTo (population - 1) source
        collect population size attempts (if rows.contains row then rows else rows ++ [row]) source

end

/-- From a list of draws as many attempts can be made as there are draws. -/
theorem gather_eq_collect (rows source : List Nat) :
    gather population size rows source = collect population size source.length rows source := by
  induction source generalizing rows with
  | nil =>
      rw [gather, List.length_nil, collect]
      rfl
  | cons row source ih =>
      rw [gather, List.length_cons, collect]
      split
      · rfl
      · exact ih _

theorem collect_map {label : Nat → Nat} (injective : Function.Injective label) (attempts : Nat)
    (rows source : List Nat) :
    collect population size attempts (rows.map label) (source.map label) =
      (collect population size attempts rows source).map fun found =>
        (found.1.map label, found.2.map label) := by
  induction attempts generalizing rows source with
  | zero =>
      simp only [collect, List.length_map]
      split <;> rfl
  | succ attempts ih =>
      simp only [collect, List.length_map]
      split
      · rfl
      · cases source with
        | nil => rfl
        | cons row source =>
            have known : (rows.map label).contains (label row) = rows.contains row := by
              simp [List.mem_map_of_injective injective]
            have step : (if (rows.map label).contains (label row) then rows.map label
                else rows.map label ++ [label row]) =
                  (if rows.contains row then rows else rows ++ [row]).map label := by
              rw [known]
              split <;> simp
            exact (congrArg (collect population size attempts · (source.map label)) step).trans
              (ih _ source)

theorem toFinset_map (label : Nat → Nat) (rows : List Nat) :
    (rows.map label).toFinset = rows.toFinset.image label := by
  ext row
  simp

theorem outcome_map {label : Nat → Nat} (result : Option (List Nat × List Nat)) :
    outcome (result.map fun found => (found.1.map label, found.2.map label)) =
      (outcome result).map fun found => (found.1.image label, found.2.map label) := by
  cases result with
  | none => rfl
  | some found => simp [outcome, toFinset_map]

theorem map_mem_rowDraws (some : 0 < population) {label : Nat → Nat}
    (isRelabeling : IsRelabeling population label) {count : Nat} {draws : List Nat}
    (isSequence : draws ∈ rowDraws population count) :
    draws.map label ∈ rowDraws population count := by
  rw [mem_rowDraws some] at isSequence ⊢
  rcases isSequence with ⟨rfl, below⟩
  refine ⟨List.length_map _, ?_⟩
  intro other isOther
  rcases List.mem_map.mp isOther with ⟨row, isRow, rfl⟩
  exact isRelabeling.below row (below row isRow)

/-- What is collected depends on the labels no more than what is drawn. -/
theorem symmetric_collect (some : 0 < population) (size attempts count : Nat) :
    Symmetric population (rowDraws population count) fun draws rows =>
      outcome (collect population size attempts [] draws) = .some (rows, []) where
  closed _ isRelabeling _ isSequence := map_mem_rowDraws some isRelabeling isSequence
  relabeled label isRelabeling draws _ rows given := by
    rw [← List.map_nil, collect_map isRelabeling.injective, outcome_map, given]
    rfl

end Sampling

end CurveNeighbors
