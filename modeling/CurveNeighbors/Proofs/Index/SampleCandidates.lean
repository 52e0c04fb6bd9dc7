import CurveNeighbors.Proofs.Index.Demands
import CurveNeighbors.Proofs.Random.Sampling

/-!
# Candidates from a sample

Without curves a query takes its candidates from a random sample of rows. There are as
many rows as the windows of one curve would have neighbours on both sides, unless fewer
neighbours are asked for or there are fewer rows. The key itself comes on top of these
rows if it was not drawn, so there are never more candidates than in one window.
-/

namespace CurveNeighbors

theorem CurveMask.selects_of_isEmpty {mask : CurveMask} (none : mask.isEmpty = true)
    (curve : Nat) : mask.selects curve = false := by
  have bits : mask.bits = 0 := by simpa [isEmpty] using none
  simp [selects, bits]

theorem Index.hasCurvesOf_of_isEmpty (index : Index) {mask : CurveMask}
    (none : mask.isEmpty = true) : index.HasCurvesOf mask := by
  intro curve selected
  simp [CurveMask.selects_of_isEmpty none curve] at selected

namespace Demand

variable {index : Index}

/-- The half width in positions that a sample stands for. -/
def sampleHalfWidth (demand : Demand index) : Int :=
  demand.halfWindow * (demand.scale.getD index.curves.sampleScale).val

/-- The number of rows in a sample. -/
def sampleSize (demand : Demand index) : Nat :=
  (min (min demand.count (2 * demand.sampleHalfWidth)) index.dataset.size).toNat

/-- The key of a demand and the keys in the rows of a sample. -/
def sampleCandidates (demand : Demand index) (rows : List Nat) : KeySequence :=
  (KeySequence.empty.insert demand.key).insertAll
    (rows.filterMap (index.dataset.keys.keys[·]?))

/-! ## Drawing the sample -/

theorem fromSample_eq (demand : Demand index) (source : RandomSource) :
    index.generator.fromSample demand.key (.ofInt demand.halfWindow) (.ofInt demand.count)
        (ScaleFactor.toValue demand.scale) source =
      match source.start with
      | .error fault => (.error fault, source)
      | .ok state =>
          match Sampling.sample index.dataset.size demand.sampleSize state with
          | none => (.error .drawsExhausted, source)
          | some (rows, left) => (.ok (demand.sampleCandidates rows), source.advanced left) := by
  have isScale : index.generator.scaleOfSample (ScaleFactor.toValue demand.scale) =
      .ofInt (demand.scale.getD index.curves.sampleScale).val := by
    cases demand.scale <;> rfl
  have wanted : CurveNeighbors.sampleSize (.ofInt demand.halfWindow)
      (.ofInt (demand.scale.getD index.curves.sampleScale).val) (.ofInt demand.count) =
        .ok (.ofInt (min demand.count (2 * demand.sampleHalfWidth))) := by
    rw [sampleSize_ofInt, sampleHalfWidth, Int.mul_assoc]
  have size : (Value.ofInt (min demand.count (2 * demand.sampleHalfWidth))).smaller
      (.ofInt index.generator.dataset.size) >>= Value.toNumber =
        .ok (.whole (min (min demand.count (2 * demand.sampleHalfWidth)) index.dataset.size)) := by
    rw [Value.smaller_ofInt]
    rfl
  have drawn (state : MersenneTwister) : drawRows state index.generator.dataset.size
      (.whole (min (min demand.count (2 * demand.sampleHalfWidth)) index.dataset.size)) =
        Drawing.draw state (Sampling.sample index.dataset.size demand.sampleSize) := rfl
  rw [CandidateGenerator.fromSample, Computation.bind_apply]
  cases started : source.start with
  | error fault => simp only [Drawing.start, started]
  | ok state =>
      simp only [Drawing.start, started, isScale, wanted]
      rw [Drawing.pure_ok_bind, size, Drawing.pure_ok_bind, drawn, Computation.bind_apply]
      cases run : Sampling.sample index.dataset.size demand.sampleSize state with
      | none => simp only [Drawing.draw, run]
      | some result =>
          simp only [Drawing.draw, run]
          rfl

/-- A query without curves takes its candidates from a sample. -/
theorem candidates_eq_sample {demand : Demand index} {mask : CurveMask} {query : Query}
    (none : mask.isEmpty = true) (asks : query.Asks demand mask) (source : RandomSource) :
    index.candidates query source =
      match source.start with
      | .error fault => (.error fault, source)
      | .ok state =>
          match Sampling.sample index.dataset.size demand.sampleSize state with
          | .none => (.error .drawsExhausted, source)
          | .some (rows, left) => (.ok (demand.sampleCandidates rows), source.advanced left) := by
  rcases Index.check_of_asks (index.hasCurvesOf_of_isEmpty none) asks with ⟨positions, checked, _⟩
  rw [Index.candidates, checked, Drawing.pure_ok_bind, Index.candidatesOf, if_pos none, asks.scale]
  exact demand.fromSample_eq source

/-! ## The candidates of a sample -/

theorem contains_sampleCandidates (demand : Demand index) (rows : List Nat) (other : Key) :
    (demand.sampleCandidates rows).contains other = true ↔
      (demand.key == other) = true ∨ ∃ row ∈ rows, ∃ holder,
        index.dataset.keys.keys[row]? = some holder ∧ (holder == other) = true := by
  rw [sampleCandidates, KeySequence.contains_insertAll, KeySequence.contains_empty_insert,
    Bool.or_eq_true, List.any_eq_true]
  apply or_congr_right
  constructor
  · rintro ⟨holder, isHolder, same⟩
    rcases List.mem_filterMap.mp isHolder with ⟨row, isRow, found⟩
    exact ⟨row, isRow, holder, found, same⟩
  · rintro ⟨row, isRow, holder, found, same⟩
    exact ⟨holder, List.mem_filterMap.mpr ⟨row, isRow, found⟩, same⟩

theorem contains_self_sampleCandidates (demand : Demand index) (rows : List Nat) :
    (demand.sampleCandidates rows).contains demand.key = true :=
  (demand.contains_sampleCandidates rows demand.key).mpr
    (Or.inl (KeySequence.beq_self_of_contains demand.indexed))

theorem contains_of_mem_sampleCandidates (demand : Demand index)
    (reflexive : ∀ key ∈ index.dataset.keys.keys, (key == key) = true) (rows : List Nat) :
    ∀ key ∈ (demand.sampleCandidates rows).keys, index.dataset.contains key = true := by
  intro key isKey
  rcases KeySequence.mem_of_mem_insertAll isKey with isFirst | isDrawn
  · rcases KeySequence.mem_of_mem_insert isFirst with impossible | rfl
    · simp [KeySequence.empty] at impossible
    · exact demand.indexed
  · rcases List.mem_filterMap.mp isDrawn with ⟨row, _, found⟩
    have isMember := List.mem_of_getElem? found
    exact KeySequence.contains_iff.mpr ⟨key, isMember, reflexive key isMember⟩

theorem pairwise_keys_of_rows (dataset : Dataset) {rows : List Nat} (different : rows.Nodup) :
    (rows.filterMap (dataset.keys.keys[·]?)).Pairwise
      fun earlier later => (earlier == later) = false := by
  refine List.Pairwise.filterMap _ ?_ different
  intro row other otherRow holder isHolder member isMember
  rcases List.getElem?_eq_some_iff.mp isHolder with ⟨inside, rfl⟩
  rcases List.getElem?_eq_some_iff.mp isMember with ⟨otherInside, rfl⟩
  apply Bool.eq_false_iff.mpr
  intro same
  exact otherRow (KeySequence.getElem_beq_getElem inside otherInside same)

/-- The key of the demand comes on top of the rows of a sample if it was not drawn. -/
theorem size_sampleCandidates (demand : Demand index) {rows : List Nat} {place : Nat}
    (different : rows.Nodup) (inside : ∀ row ∈ rows, row < index.dataset.size)
    (placed : index.dataset.rowOf demand.key = .ok place) :
    (demand.sampleCandidates rows).size =
      if place ∈ rows then rows.length else rows.length + 1 := by
  have others : (rows.filterMap (index.dataset.keys.keys[·]?)).countP
      (fun key => !(KeySequence.empty.insert demand.key).contains key) =
        rows.countP fun row => ¬(row == place) := by
    rw [List.countP_filterMap]
    apply List.countP_congr
    intro row isRow
    have isHolder := List.getElem?_eq_getElem (inside row isRow)
    have isPlace := KeySequence.beq_iff_eq_place placed isHolder
    rw [isHolder]
    simp [KeySequence.contains_empty_insert, ← isPlace]
  have first : (KeySequence.empty.insert demand.key).size = 1 := rfl
  have split : rows.length = rows.count place + _ :=
    List.length_eq_countP_add_countP fun row => row == place
  rw [sampleCandidates, KeySequence.size_insertAll _ (pairwise_keys_of_rows _ different), others,
    first]
  by_cases drawn : place ∈ rows
  · rw [List.count_eq_one_of_mem different drawn] at split
    rw [if_pos drawn]
    exact split.symm
  · rw [List.count_eq_zero_of_not_mem drawn] at split
    rw [if_neg drawn, split]
    omega

theorem sampleHalfWidth_nonneg (demand : Demand index) : 0 ≤ demand.sampleHalfWidth :=
  Int.mul_nonneg demand.nonnegative (Int.le_of_lt (demand.scale.getD _).property)

theorem sampleSize_le (demand : Demand index) :
    demand.sampleSize ≤ index.dataset.size ∧
      (demand.sampleSize : Int) ≤ 2 * demand.sampleHalfWidth := by
  have nonnegative := demand.sampleHalfWidth_nonneg
  have positive := demand.positive
  unfold sampleSize
  omega

section

variable {demand : Demand index} {state left : MersenneTwister} {rows : List Nat}
  (isSample : Sampling.IsSample index.dataset.size demand.sampleSize state rows left)

include isSample

theorem exists_size_sampleCandidates :
    ∃ place, index.dataset.rowOf demand.key = .ok place ∧
      (demand.sampleCandidates rows).size =
        if place ∈ rows then demand.sampleSize else demand.sampleSize + 1 := by
  rcases KeySequence.exists_position_iff.mpr demand.indexed with ⟨place, placed⟩
  refine ⟨place, placed, ?_⟩
  rw [demand.size_sampleCandidates isSample.different isSample.inside placed, isSample.length]

theorem size_sampleCandidates_le :
    (demand.sampleCandidates rows).size ≤ index.dataset.size := by
  rcases exists_size_sampleCandidates isSample with ⟨place, placed, size⟩
  rw [size]
  split
  · exact demand.sampleSize_le.1
  · next notDrawn =>
      rw [← isSample.length]
      exact isSample.length_lt (KeySequence.lt_size_of_position placed) notDrawn

/-- A window of the same half width has room for all candidates. -/
theorem exists_window_of_sample {place : Nat} (inside : place < index.dataset.size) :
    ∃ window, candidateWindow index.dataset.size place demand.sampleHalfWidth = .ok window ∧
      window.size = min (2 * demand.sampleHalfWidth + 1) (index.dataset.size : Int) ∧
      ((demand.sampleCandidates rows).size : Int) ≤ window.size := by
  have nonnegative := demand.sampleHalfWidth_nonneg
  have first : (0 : Int) ≤ place := by omega
  have last : (place : Int) < index.dataset.size := by omega
  rcases CandidateWindow.around_bounds first last nonnegative with ⟨_, _, _, _, width⟩
  refine ⟨_, CandidateWindow.candidateWindow_eq_ok first last nonnegative, ?_, ?_⟩
  · rw [CandidateWindow.size, width, Int.min_comm]
  · have atMost := size_sampleCandidates_le isSample
    have fewRows := demand.sampleSize_le.2
    rcases exists_size_sampleCandidates isSample with ⟨_, _, size⟩
    rw [CandidateWindow.size, width]
    split at size <;> omega

end

/-- Without curves the candidates are the key and the keys in the rows of a sample. -/
theorem candidates_of_sample (demand : Demand index) {mask : CurveMask} {query : Query}
    (none : mask.isEmpty = true) (asks : query.Asks demand mask) {source : RandomSource}
    {found : KeySequence} (success : (index.candidates query source).1 = .ok found) :
    ∃ state rows left, source.start = .ok state ∧
      (index.candidates query source).2 = source.advanced left ∧
      Sampling.IsSample index.dataset.size demand.sampleSize state rows left ∧
      (demand.sampleSize = 0 → left = state) ∧
      (∀ other, found.contains other = true ↔ (demand.key == other) = true ∨
        ∃ row ∈ rows, ∃ holder, index.dataset.keys.keys[row]? = some holder ∧
          (holder == other) = true) ∧
      (∃ place, index.dataset.rowOf demand.key = .ok place ∧
        found.size = if place ∈ rows then demand.sampleSize else demand.sampleSize + 1) ∧
      found.size ≤ index.dataset.size ∧
      ∀ place : Nat, place < index.dataset.size → ∃ window,
        candidateWindow index.dataset.size place demand.sampleHalfWidth = .ok window ∧
          window.size = min (2 * demand.sampleHalfWidth + 1) (index.dataset.size : Int) ∧
          (found.size : Int) ≤ window.size := by
  rw [candidates_eq_sample none asks] at success ⊢
  split at success
  · cases success
  · next state started =>
      split at success
      · cases success
      · next rows left run =>
          cases success
          have isSample := Sampling.isSample_of_sample (Nat.pos_of_ne_zero index.nonempty)
            demand.sampleSize_le.1 run
          refine ⟨state, rows, left, started, rfl, isSample, ?_,
            demand.contains_sampleCandidates rows, exists_size_sampleCandidates isSample,
            size_sampleCandidates_le isSample, ?_⟩
          · intro noRows
            rw [noRows] at isSample
            exact isSample.left_eq
          · intro place inside
            exact exists_window_of_sample isSample inside

/-- Two keys on one curve. -/
def twoKeys : Index where
  dataset := ⟨⟨[1, 2].map Key.ofInt, by decide⟩, [[1], [2]], 1, rfl, by decide⟩
  curves := ⟨[⟨.null, [2, 1].map Key.ofInt, by decide⟩], [.one], ⟨3, by decide⟩, rfl, by decide⟩
  distance := .hamming
  arrangement := .asAdded
  nonempty := by decide
  covered := rfl

theorem candidates_of_sample_two_keys :
    ∃ (demand : Demand twoKeys) (query : Query) (found : KeySequence) (rows : List Nat)
      (left : MersenneTwister), query.Asks demand .empty ∧
      (twoKeys.candidates query (.generator (.ofSeed 7))).1 = .ok found ∧
      Sampling.IsSample 2 1 (MersenneTwister.ofSeed 7) rows left ∧
      found.size = if 1 ∈ rows then 1 else 2 := by
  let demand : Demand twoKeys :=
    ⟨Key.ofInt 2, 1, 1, none, by decide, by decide, by decide⟩
  let query : Query := ⟨.ofInt 2, .value (.ofInt 0), .ofInt 1, .ofInt 1, .null⟩
  have asks : query.Asks demand .empty := ⟨rfl, rfl, rfl, rfl, rfl, rfl⟩
  have fromAny (state : MersenneTwister) : ∃ (found : KeySequence) (rows : List Nat)
      (left : MersenneTwister), (twoKeys.candidates query (.generator state)).1 = .ok found ∧
      Sampling.IsSample 2 1 state rows left ∧ found.size = if 1 ∈ rows then 1 else 2 := by
    rcases Sampling.exists_sample_two state with ⟨row, left, run⟩
    have drawn : Sampling.sample twoKeys.dataset.size demand.sampleSize state =
        some ([row], left) := run
    have success : (twoKeys.candidates query (.generator state)).1 =
        .ok (demand.sampleCandidates [row]) := by
      rw [candidates_eq_sample rfl asks]
      simp only [RandomSource.start, drawn]
    rcases demand.candidates_of_sample rfl asks success with
      ⟨_, rows, _, started, _, isSample, _, _, ⟨place, placed, size⟩, _⟩
    cases started
    cases placed
    exact ⟨_, rows, _, success, isSample, size⟩
  rcases fromAny (.ofSeed 7) with ⟨found, rows, left, success, isSample, size⟩
  exact ⟨demand, query, found, rows, left, asks, success, isSample, size⟩

end Demand

end CurveNeighbors
