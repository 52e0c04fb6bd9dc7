import CurveNeighbors.Proofs.Random.Shuffles
import Mathlib.Analysis.SpecificLimits.Basic

/-!
# Uniform samples

If all sequences of draws are equally likely, so are all sets of rows that a sample can be.
Collecting stops after any number of draws with each of the sets in equally many ways, and the
sequences of draws that are still not enough become a vanishing part of all. A shuffle comes
to each arrangement in one way, and equally many arrangements begin with each of the sets.
-/

namespace CurveNeighbors

namespace Sampling

variable {population size : Nat}

/-! ## Draws that are not enough -/

/-- Collecting has not come to an end only as long as there are too few different rows. -/
theorem card_lt_of_collect_eq_none {rows source : List Nat} (different : rows.Nodup)
    (unfinished : collect population size source.length rows source = none) :
    (rows.toFinset ∪ source.toFinset).card < size := by
  induction source generalizing rows with
  | nil =>
      rw [List.length_nil, collect] at unfinished
      split at unfinished
      · cases unfinished
      · next few =>
          simpa [List.toFinset_card_of_nodup different] using few
  | cons row source ih =>
      rw [List.length_cons, collect] at unfinished
      split at unfinished
      · cases unfinished
      · rcases gatherStep_spec different row with ⟨stillDifferent, _, grown⟩
        have below := ih stillDifferent unfinished
        rwa [grown, Finset.insert_union_comm, ← List.toFinset_cons] at below

/-- The number of the sequences of draws in which a row does not occur. -/
theorem card_avoiding {row : Nat} (below : row < population) (count : Nat) :
    ((rowDraws population count).filter fun draws => row ∉ draws).card =
      (population - 1) ^ count := by
  induction count with
  | zero => simp [rowDraws, drawsUpTo, Finset.filter_singleton]
  | succ count ih =>
      have split : (rowDraws population (count + 1)).filter (fun draws => row ∉ draws) =
          (((Finset.range population).erase row) ×ˢ
            (rowDraws population count).filter fun draws => row ∉ draws).image
              fun drawn => drawn.1 :: drawn.2 := by
        ext draws
        simp only [rowDraws, List.replicate_succ, Finset.mem_filter, mem_drawsUpTo_cons,
          Finset.mem_image, Finset.mem_product, Finset.mem_erase, Finset.mem_range,
          Nat.le_sub_one_iff_lt (Nat.zero_lt_of_lt below), Prod.exists]
        constructor
        · rintro ⟨⟨first, inside, rest, isRest, rfl⟩, avoids⟩
          rcases not_or.mp (mt List.mem_cons.mpr avoids) with ⟨differs, avoids⟩
          exact ⟨first, rest, ⟨⟨Ne.symm differs, inside⟩, isRest, avoids⟩, rfl⟩
        · rintro ⟨first, rest, ⟨⟨differs, inside⟩, isRest, avoids⟩, rfl⟩
          exact ⟨⟨first, inside, rest, isRest, rfl⟩, by simp [differs.symm, avoids]⟩
      rw [split, Finset.card_image_of_injective _ uncurried_cons_injective, Finset.card_product, ih,
        Finset.card_erase_of_mem (Finset.mem_range.mpr below), Finset.card_range, Nat.pow_succ']

/-- The set of the rows that are collected, if the draws are enough. Draws that are left over do not
count. -/
def collectedFrom (population size : Nat) (draws : List Nat) : Option (Finset Nat) :=
  (outcome (collected population size draws)).map Prod.fst

theorem collectedFrom_eq_none {draws : List Nat} :
    collectedFrom population size draws = none ↔
      collect population size draws.length [] draws = none := by
  simp [collectedFrom, outcome, collected, gather_eq_collect]

theorem card_unfinished_le (possible : size ≤ population) (count : Nat) :
    ((rowDraws population count).filter fun draws =>
      collectedFrom population size draws = none).card ≤ population * (population - 1) ^ count := by
  have avoids : ((rowDraws population count).filter fun draws =>
      collectedFrom population size draws = none) ⊆ (Finset.range population).biUnion fun row =>
        (rowDraws population count).filter fun draws => row ∉ draws := by
    intro draws isUnfinished
    rcases Finset.mem_filter.mp isUnfinished with ⟨isSequence, unfinished⟩
    have few : draws.toFinset.card < population := by
      have below := card_lt_of_collect_eq_none .nil (collectedFrom_eq_none.mp unfinished)
      rw [List.toFinset_nil, Finset.empty_union] at below
      exact below.trans_le possible
    have missing : ∃ row ∈ Finset.range population, row ∉ draws.toFinset := by
      apply Finset.exists_mem_notMem_of_card_lt_card
      rwa [Finset.card_range]
    rcases missing with ⟨row, isRow, notDrawn⟩
    refine Finset.mem_biUnion.mpr ⟨row, isRow, Finset.mem_filter.mpr ⟨isSequence, ?_⟩⟩
    simpa using notDrawn
  calc ((rowDraws population count).filter fun draws =>
        collectedFrom population size draws = none).card
      ≤ ((Finset.range population).biUnion fun row =>
          (rowDraws population count).filter fun draws => row ∉ draws).card :=
        Finset.card_le_card avoids
    _ ≤ (Finset.range population).card * (population - 1) ^ count := by
        apply Finset.card_biUnion_le_card_mul
        intro row isRow
        exact (card_avoiding (Finset.mem_range.mp isRow) count).le
    _ = population * (population - 1) ^ count := by rw [Finset.card_range]

/-! ## Equal shares -/

theorem collectedFrom_map {label : Nat → Nat} (injective : Function.Injective label)
    (draws : List Nat) :
    collectedFrom population size (draws.map label) =
      (collectedFrom population size draws).map (Finset.image label) := by
  rw [collectedFrom, collected, gather_eq_collect, List.length_map, ← List.map_nil,
    collect_map injective, outcome_map, collectedFrom, collected, gather_eq_collect,
    Option.map_map, Option.map_map]
  rfl

theorem append_of_stream {limit count : Nat} {source drawn left : List Nat}
    (success : stream limit count source = some (drawn, left)) : source = drawn ++ left := by
  induction count generalizing source drawn with
  | zero =>
      cases success
      rfl
  | succ count ih =>
      rw [stream] at success
      rcases Option.bind_eq_some_iff.mp success with ⟨⟨first, next⟩, draws, success⟩
      rcases Option.bind_eq_some_iff.mp success with ⟨⟨rest, final⟩, others, success⟩
      cases success
      cases source with
      | nil => cases draws
      | cons row source =>
          cases draws
          rw [List.cons_append, ← ih others]

/-- What is collected are rows, as many as are asked for. -/
theorem collectedFrom_mem_powersetCard (some : 0 < population) {count : Nat} {draws : List Nat}
    (isSequence : draws ∈ rowDraws population count) {found : Finset Nat}
    (success : collectedFrom population size draws = .some found) :
    found ∈ (Finset.range population).powersetCard size := by
  simp only [collectedFrom, outcome, Option.map_map, Option.map_eq_some_iff] at success
  rcases success with ⟨⟨rows, left⟩, success, rfl⟩
  rcases isGathered_of_gather success .nil (Nat.zero_le size) with
    ⟨different, length, drawn, isStream, same, _⟩
  refine Finset.mem_powersetCard.mpr ⟨?_, (List.toFinset_card_of_nodup different).trans length⟩
  intro row isRow
  have isDrawn : row ∈ draws := by
    rw [append_of_stream isStream]
    exact List.mem_append_left _ (by simpa [same] using isRow)
  exact Finset.mem_range.mpr (((mem_rowDraws some).mp isSequence).2 row isDrawn)

/-- Sequences of draws that are enough give each of the possible sets of rows equally often. -/
theorem card_collecting (some : 0 < population) {rows : Finset Nat}
    (isRows : rows ∈ (Finset.range population).powersetCard size) (count : Nat) :
    ((rowDraws population count).filter fun draws =>
        collectedFrom population size draws = none).card +
      population.choose size * ((rowDraws population count).filter
        fun draws => collectedFrom population size draws = .some rows).card =
          population ^ count := by
  have symmetric : Symmetric population (rowDraws population count)
      fun draws rows => collectedFrom population size draws = .some rows := by
    constructor
    · intro label isRelabeling draws isSequence
      exact map_mem_rowDraws some isRelabeling isSequence
    · intro label isRelabeling draws _ rows given
      rw [collectedFrom_map isRelabeling.injective, given]
      rfl
  rw [← card_rowDraws some]
  apply symmetric.choose_mul_card _ isRows
  intro draws isSequence found success
  exact collectedFrom_mem_powersetCard some isSequence success

section

open Filter

/-- The draws that are not enough are a vanishing part of all. -/
theorem tendsto_unfinished (some : 0 < population) (possible : size ≤ population) :
    Tendsto (fun count => (((rowDraws population count).filter fun draws =>
        collectedFrom population size draws = none).card : ℝ) / population ^ count)
      atTop (nhds 0) := by
  have positive : (0 : ℝ) < population := Nat.cast_pos.mpr some
  have vanishing : Tendsto (fun count : Nat =>
      (population : ℝ) * ((population - 1 : ℝ) / population) ^ count) atTop (nhds 0) := by
    have ratio : (population - 1 : ℝ) / population < 1 := by
      rw [div_lt_one positive]
      linarith
    have nonnegative : 0 ≤ (population - 1 : ℝ) / population := by
      have one : (1 : ℝ) ≤ population := Nat.one_le_cast.mpr some
      exact div_nonneg (by linarith) positive.le
    simpa using (tendsto_pow_atTop_nhds_zero_of_lt_one nonnegative ratio).const_mul (population : ℝ)
  apply squeeze_zero (fun _ => by positivity) _ vanishing
  intro count
  rw [div_pow, ← mul_div_assoc]
  apply div_le_div_of_nonneg_right _ (by positivity)
  have bound := Nat.cast_le (α := ℝ).mpr (card_unfinished_le possible count)
  simpa [Nat.cast_sub (Nat.one_le_iff_ne_zero.mpr some.ne')] using bound

/-- Rows are collected with the same probability as any others of which there are as many. -/
theorem tendsto_collected (some : 0 < population) {rows : Finset Nat}
    (isRows : rows ∈ (Finset.range population).powersetCard size) :
    Tendsto (fun count => (((rowDraws population count).filter fun draws =>
        collectedFrom population size draws = .some rows).card : ℝ) / population ^ count)
      atTop (nhds (1 / population.choose size)) := by
  have possible := size_le_of_mem_powersetCard isRows
  have sets : (population.choose size : ℝ) ≠ 0 := by
    exact_mod_cast (Nat.choose_pos possible).ne'
  have share (count : Nat) : (((rowDraws population count).filter fun draws =>
      collectedFrom population size draws = .some rows).card : ℝ) / population ^ count =
        (1 - (((rowDraws population count).filter fun draws =>
          collectedFrom population size draws = none).card : ℝ) / population ^ count) /
            population.choose size := by
    have whole : (population : ℝ) ^ count ≠ 0 := pow_ne_zero _ (Nat.cast_ne_zero.mpr some.ne')
    have total := congrArg (Nat.cast (R := ℝ)) (card_collecting some isRows count)
    push_cast at total
    field_simp
    linarith
  simp only [share]
  have finished := (tendsto_unfinished some possible).const_sub 1
  simpa using finished.div_const (population.choose size : ℝ)

/-- Any set of rows is as likely a sample as any other of its size. Collecting stops with either
after the same number of draws in equally many ways, and with each in its share of all cases; and of
the arrangements equally many begin with either, each of which comes of one sequence of draws. -/
theorem sample_is_uniform (some : 0 < population) {rows others : Finset Nat}
    (isRows : rows ∈ (Finset.range population).powersetCard size)
    (isOther : others ∈ (Finset.range population).powersetCard size) :
    (2 * size ≤ population →
      (∀ attempts count,
        ((rowDraws population count).filter fun draws =>
          outcome (collect population size attempts [] draws) = .some (rows, [])).card =
        ((rowDraws population count).filter fun draws =>
          outcome (collect population size attempts [] draws) = .some (others, [])).card) ∧
      (∀ count,
        ((rowDraws population count).filter fun draws =>
          outcome (sample population size draws) = .some (rows, [])).card =
        ((rowDraws population count).filter fun draws =>
          outcome (sample population size draws) = .some (others, [])).card) ∧
      Tendsto (fun count => (((rowDraws population count).filter fun draws =>
          collectedFrom population size draws = .some rows).card : ℝ) / population ^ count)
        atTop (nhds (1 / population.choose size))) ∧
    (population < 2 * size →
      ((arrangements population).filter fun arrangement =>
        (arrangement.take size).toFinset = rows).card =
          size.factorial * (population - size).factorial ∧
      ((shuffleDraws population).filter fun draws =>
        outcome (sample population size draws) = .some (rows, [])).card =
          size.factorial * (population - size).factorial ∧
      (((shuffleDraws population).filter fun draws =>
        outcome (sample population size draws) = .some (rows, [])).card : ℝ) /
          (shuffleDraws population).card = 1 / population.choose size) := by
  have alike (attempts count : Nat) :=
    (symmetric_collect some size attempts count).card_eq isRows isOther
  constructor
  · intro small
    refine ⟨alike, ?_, tendsto_collected some isRows⟩
    intro count
    -- A sequence of draws is as long as the number of attempts that can be made with it.
    have gathered (draws : List Nat) (isSequence : draws ∈ rowDraws population count) :
        sample population size draws = collect population size count [] draws := by
      rw [sample, if_pos small, collected, gather_eq_collect, ((mem_rowDraws some).mp isSequence).1]
    have given (found : Finset Nat) : ((rowDraws population count).filter fun draws =>
        outcome (sample population size draws) = .some (found, [])) =
          (rowDraws population count).filter fun draws =>
            outcome (collect population size count [] draws) = .some (found, []) :=
      Finset.filter_congr fun draws isSequence => by rw [gathered draws isSequence]
    rw [given, given]
    exact alike count count
  · intro large
    have shuffled := (card_shuffled some large).trans (card_arrangements_of isRows)
    refine ⟨card_arrangements_of isRows, shuffled, ?_⟩
    have possible := size_le_of_mem_powersetCard isRows
    have sets : (population.choose size : ℝ) ≠ 0 := by
      exact_mod_cast (Nat.choose_pos possible).ne'
    rw [shuffled, card_shuffleDraws some, ← Nat.choose_mul_factorial_mul_factorial possible]
    push_cast
    field_simp

theorem sample_is_uniform_few_rows :
    ((rowDraws 4 3).filter fun draws => outcome (sample 4 2 draws) = some ({0, 1}, [])).card =
      ((rowDraws 4 3).filter fun draws => outcome (sample 4 2 draws) = some ({1, 3}, [])).card ∧
    ((shuffleDraws 3).filter fun draws =>
      outcome (sample 3 2 draws) = some ({0, 2}, [])).card = 2 :=
  ⟨((sample_is_uniform (by decide) (by decide) (by decide)).1 (by decide)).2.1 3,
    ((sample_is_uniform (by decide) (by decide) (by decide : {0, 2} ∈ _)).2 (by decide)).2.1⟩

end

end Sampling

end CurveNeighbors
