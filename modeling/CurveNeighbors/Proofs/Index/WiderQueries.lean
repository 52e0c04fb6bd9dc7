import CurveNeighbors.Proofs.Index.Answers
import CurveNeighbors.Proofs.Neighbors.Comparison

/-!
# Wider queries

A query is wider than another with the same key if it asks for no narrower windows, on
all the curves of the other at least. Its windows contain those of the other, so it has
all candidates of the other and perhaps more, and of more candidates the nearest are no
farther away: not the first, nor the second, nor any of them. A scan of the whole dataset
is wider than all queries. So the relative error of an answer is never negative.

For more neighbours the candidates are the same, and the nearest of them begin with those
that were there for fewer.
-/

namespace CurveNeighbors

open Binary64

/-! ## Windows that contain others -/

theorem CurveMask.isEmpty_of_within {mask more : CurveMask} (nonempty : mask.isEmpty = false)
    (within : ∀ curve, mask.selects curve = true → more.selects curve = true) :
    more.isEmpty = false := by
  rcases exists_selects nonempty with ⟨curve, selected, _⟩
  by_contra none
  have selects := within curve selected
  rw [selects_of_isEmpty (by simpa using none)] at selects
  cases selects

namespace Demand

variable {index : Index} {narrow wide : Demand index} {mask more : CurveMask} {curve : Nat}
  {other : Key}

/-- A demand asks for the same number of neighbours of the same key, and for windows that are
nowhere narrower. -/
structure Widens (wide narrow : Demand index) : Prop where
  key : wide.key = narrow.key
  count : wide.count = narrow.count
  halfWindow : narrow.halfWindow ≤ wide.halfWindow
  scale : Option.Rel (fun smaller larger => smaller.val ≤ larger.val) narrow.scale wide.scale

theorem Widens.halfWidthOn_le (widens : wide.Widens narrow) (curve : Nat) :
    narrow.halfWidthOn curve ≤ wide.halfWidthOn curve := by
  have factors : (narrow.factorOn curve).val ≤ (wide.factorOn curve).val := by
    have scales := widens.scale
    rw [factorOn, factorOn]
    generalize narrow.scale = smaller at scales ⊢
    generalize wide.scale = larger at scales ⊢
    cases scales with
    | none => exact le_rfl
    | some ordered => exact ordered
  apply Int.mul_le_mul widens.halfWindow factors
  · exact Int.le_of_lt (narrow.factorOn curve).property
  · exact wide.nonnegative

theorem InWindow.widen (inWindow : narrow.InWindow curve other) (widens : wide.Widens narrow) :
    wide.InWindow curve other := by
  rcases inWindow with ⟨order, place, otherPlace, window, isCurve, found, otherFound, success,
    contained⟩
  have inside := KeySequence.lt_size_of_position found
  have first : (0 : Int) ≤ place := by omega
  have last : (place : Int) < index.dataset.size := by
    rw [← Index.length_of_curve (List.mem_of_getElem? isCurve)]
    exact Int.ofNat_lt.mpr inside
  rw [CandidateWindow.candidateWindow_eq_ok first last (narrow.halfWidthOn_nonneg curve)] at success
  cases success
  rw [← widens.key] at found
  refine ⟨order, place, otherPlace, _, isCurve, found, otherFound,
    CandidateWindow.candidateWindow_eq_ok first last (wide.halfWidthOn_nonneg curve), ?_⟩
  have nested := CandidateWindow.around_mono index.dataset.size place
    (widens.halfWidthOn_le curve)
  simp only [CandidateWindow.contains, decide_eq_true_eq] at contained ⊢
  omega

/-- A wider query has all candidates of the other. -/
theorem Widens.contains_of_mem (widens : wide.Widens narrow) (nonempty : mask.isEmpty = false)
    (within : ∀ curve, mask.selects curve = true → more.selects curve = true)
    (exist : index.HasCurvesOf more) :
    ∀ key ∈ (narrow.curveCandidates mask).keys,
      (wide.curveCandidates more).contains key = true := by
  intro key isKey
  have existHere : index.HasCurvesOf mask :=
    fun curve selected => exist curve (within curve selected)
  have indexed := contains_of_mem_curveCandidates existHere key isKey
  have present : (narrow.curveCandidates mask).contains key = true :=
    KeySequence.contains_iff.mpr ⟨key, isKey, KeySequence.beq_self_of_contains indexed⟩
  rcases (contains_curveCandidates nonempty existHere key).mp present with
    ⟨curve, selected, inWindow⟩
  exact (contains_curveCandidates (CurveMask.isEmpty_of_within nonempty within) exist key).mpr
    ⟨curve, within curve selected, inWindow.widen widens⟩

end Demand

/-! ## Wider queries -/

/-- A wider query is answered with no fewer neighbours, none of which is farther away. For more
neighbours the answer goes on where it ended, and no answer is nearer than the true one. -/
theorem query_of_wider {index : Index} (demand : Demand index) {mask : CurveMask} {query : Query}
    {point : Point} (reflexive : demand.key.equals demand.key = true)
    (nonempty : mask.isEmpty = false) (exist : index.HasCurvesOf mask)
    (asks : query.Asks demand mask) (located : index.dataset.pointOf demand.key = .ok point)
    (scores : index.dataset.Scores index.distance point) (state : QueryState) :
    ∃ answer left, index.query query state = (.ok answer, left) ∧
      (∀ (wide : Demand index) (more : CurveMask) (other : Query) (start : QueryState),
        wide.Widens demand → (∀ curve, mask.selects curve = true → more.selects curve = true) →
        index.HasCurvesOf more → other.Asks wide more →
        ∃ better left, index.query other start = (.ok better, left) ∧ NoFarther better answer) ∧
      (∀ (count : Int) (start : QueryState), demand.count ≤ count →
        ∃ all left, index.query { query with count := .ofInt count } start = (.ok all, left) ∧
          answer = all.take demand.count.toNat) ∧
      ((∀ key ∈ index.dataset.keys.keys, ∀ scored,
          scoreOf index.distance index.dataset point key.value = .ok scored →
          IsFinite scored.distance) →
        ∃ nearest, (nearestByScan index.distance index.dataset index.dataset.keys.values point
            query.count.toValue).outcome = .ok nearest ∧
          HasNonnegativeError answer nearest demand.count.toNat) := by
  rcases scores.exists_scoresOf (Demand.contains_of_mem_curveCandidates exist) with
    ⟨part, partScores⟩
  rcases Index.exists_nearest_of_curves reflexive nonempty exist asks located partScores state with
    ⟨best, left, closest, answered⟩
  refine ⟨_, left, answered, ?_, ?_, ?_⟩
  · intro wide more other start widens within existMore asksWide
    rcases scores.exists_scoresOf (Demand.contains_of_mem_curveCandidates existMore) with
      ⟨whole, wholeScores⟩
    rw [← widens.key] at located reflexive
    rcases Index.exists_nearest_of_curves reflexive (CurveMask.isEmpty_of_within nonempty within)
      existMore asksWide located wholeScores start with ⟨kept, left, nearest, answeredMore⟩
    rw [widens.count] at nearest
    have among := widens.contains_of_mem nonempty within existMore
    exact ⟨_, left, answeredMore, closest.noFarther nearest partScores wholeScores among⟩
  · intro count start fewer
    -- The number of neighbours has no part in the windows, so the candidates are the same.
    let larger : Demand index :=
      { demand with count := count, positive := demand.positive.trans_le fewer }
    have asksLarger : ({ query with count := .ofInt count } : Query).Asks larger mask :=
      asks.withCount larger.positive
    have alsoReflexive : larger.key.equals larger.key = true := reflexive
    rcases Index.exists_nearest_of_curves alsoReflexive nonempty exist asksLarger located
      partScores start with ⟨all, left, nearest, answeredAll⟩
    have first := nearest.take (Int.toNat_le_toNat fewer)
    refine ⟨_, left, answeredAll, ?_⟩
    rw [closest.eq_of_scores first partScores, List.map_take]
  · intro finite
    have positive : 0 < demand.count.toNat := Int.pos_iff_toNat_pos.mp demand.positive
    have everyKey : ∀ key ∈ index.dataset.keys.keys, index.dataset.contains key = true := by
      intro key isKey
      exact scores.contains_of_mem isKey
    rcases scores.exists_scoresOf everyKey with ⟨whole, wholeScores⟩
    rcases scan_nearest positive wholeScores.each wholeScores.defined with
      ⟨kept, scanned, nearest⟩
    rw [Int.toNat_of_nonneg demand.positive.le, ← asks.count] at scanned
    have wholeFinite : ∀ candidate ∈ whole, IsFinite candidate.distance := by
      intro candidate isCandidate
      rcases Outcome.exists_of_mem_mapM wholeScores.each isCandidate with ⟨value, isValue, found⟩
      rcases List.mem_map.mp isValue with ⟨key, isKey, rfl⟩
      exact finite key isKey candidate found
    exact ⟨_, scanned, closest.hasNonnegativeError nearest partScores wholeScores
      (Demand.contains_of_mem_curveCandidates exist) wholeFinite positive⟩

theorem query_of_wider_two_curves :
    ∃ answer better nearest left right,
      Demand.twoCurves.query ⟨.ofInt 4, .value (.ofInt 1), .ofInt 0, .ofInt 2, .null⟩ ⟨.absent, 0⟩ =
        (.ok answer, left) ∧
      Demand.twoCurves.query ⟨.ofInt 4, .value (.ofInt 3), .ofInt 1, .ofInt 2, .null⟩ ⟨.absent, 0⟩ =
        (.ok better, right) ∧
      NoFarther better answer ∧
      (nearestByScan .hamming Demand.twoCurves.dataset Demand.twoCurves.dataset.keys.values [4]
        (.ofInt 2)).outcome = .ok nearest ∧
      HasNonnegativeError answer nearest 2 := by
  have scored : ∀ key ∈ Demand.twoCurves.dataset.keys.keys, ∃ scored,
      scoreOf .hamming Demand.twoCurves.dataset [4] key.value = .ok scored ∧
        scored.isUndefined = false ∧ IsFinite scored.distance := by
    intro key isKey
    simp only [Demand.twoCurves, List.map_cons, List.map_nil, List.mem_cons, List.not_mem_nil,
      or_false] at isKey
    rcases isKey with rfl | rfl | rfl | rfl | rfl
    all_goals exact ⟨_, rfl, by decide, by unfold IsFinite; decide⟩
  have scores : Demand.twoCurves.dataset.Scores Demand.twoCurves.distance [4] := by
    intro key isKey
    rcases scored key isKey with ⟨candidate, found, defined, _⟩
    exact ⟨candidate, found, defined⟩
  have existWide : Demand.twoCurves.HasCurvesOf ⟨3⟩ := CurveMask.highest_lt_iff.mp (by decide)
  have existNarrow : Demand.twoCurves.HasCurvesOf ⟨1⟩ := CurveMask.highest_lt_iff.mp (by decide)
  let narrow : Demand Demand.twoCurves :=
    ⟨Key.ofInt 4, 0, 2, none, by decide, by decide, by decide⟩
  let wide : Demand Demand.twoCurves :=
    ⟨Key.ofInt 4, 1, 2, none, by decide, by decide, by decide⟩
  have asks : Query.Asks ⟨.ofInt 4, .value (.ofInt 1), .ofInt 0, .ofInt 2, .null⟩ narrow ⟨1⟩ :=
    ⟨rfl, rfl, rfl, rfl, rfl, rfl⟩
  have asksWide : Query.Asks ⟨.ofInt 4, .value (.ofInt 3), .ofInt 1, .ofInt 2, .null⟩ wide ⟨3⟩ :=
    ⟨rfl, rfl, rfl, rfl, rfl, rfl⟩
  have within : ∀ curve, CurveMask.selects ⟨1⟩ curve = true →
      CurveMask.selects ⟨3⟩ curve = true := by
    intro curve selected
    have union : CurveMask.union ⟨1⟩ ⟨2⟩ = ⟨3⟩ := rfl
    rw [← union, CurveMask.selects_union, selected, Bool.true_or]
  rcases query_of_wider narrow (by decide) (by decide) existNarrow asks rfl scores ⟨.absent, 0⟩ with
    ⟨answer, left, answered, wider, _, error⟩
  rcases wider wide ⟨3⟩ _ ⟨.absent, 0⟩ ⟨rfl, rfl, by decide, .none⟩ within existWide asksWide with
    ⟨better, right, answeredWide, noFarther⟩
  rcases error (by
    intro key isKey candidate found
    rcases scored key isKey with ⟨_, alsoFound, _, finite⟩
    cases found.symm.trans alsoFound
    exact finite) with ⟨nearest, scanned, notNegative⟩
  exact ⟨answer, better, nearest, left, right, answered, answeredWide, noFarther, scanned,
    notNegative⟩

end CurveNeighbors
