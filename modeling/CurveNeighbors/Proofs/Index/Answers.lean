import CurveNeighbors.Proofs.Index.Queries
import CurveNeighbors.Proofs.Neighbors.Parts

/-!
# The nearest candidates as answers

Where the candidates of a query are at defined distances from the point of its key, the
answer is made of the nearest of them: of their ranks it has the lowest, in ascending
order. What is asked of a mask of curves is answered from the windows on these curves
alone, whatever the state in which the question is put.
-/

namespace CurveNeighbors

theorem rerank_eq_outcome {distance : Distance} {dataset : Dataset} {point : Point} {capacity : Nat}
    (positive : 0 < capacity) (candidates : List Value) (evaluations : Nat) :
    (rerank distance dataset candidates point (.ofInt capacity) evaluations).1 =
      (rerank distance dataset candidates point (.ofInt capacity)).outcome := by
  rw [Counting.outcome, rerank_outcome positive, rerank_outcome positive]

namespace Index

variable {index : Index} {demand : Demand index} {mask : CurveMask} {query : Query} {point : Point}

theorem exists_nearest_of_candidates (exist : index.HasCurvesOf mask)
    (asks : query.Asks demand mask) (located : index.dataset.pointOf demand.key = .ok point)
    {found : KeySequence} {scored : List ScoredCandidate}
    (scores : ScoresOf index.distance index.dataset point found scored) {state : QueryState}
    {source : RandomSource} (run : index.candidates query state.source = (.ok found, source)) :
    ∃ kept left, Nearest demand.count.toNat scored kept ∧
      index.query query state = (.ok (kept.map ScoredCandidate.neighbor), left) := by
  rcases check_of_asks exist asks with ⟨positions, success, _⟩
  rw [← candidatesOf_eq success] at run
  have positive : 0 < demand.count.toNat := Int.pos_iff_toNat_pos.mp demand.positive
  rcases scores.exists_nearest positive (index.arrangement.values_perm found) with
    ⟨kept, reranked, nearest⟩
  rw [← rerank_eq_outcome positive _ state.evaluations,
    Int.toNat_of_nonneg demand.positive.le] at reranked
  rcases query_of_candidates success run located reranked with ⟨left, answered⟩
  exact ⟨kept, left, nearest, answered⟩

/-- What is asked of curves is answered from the windows on them. -/
theorem exists_nearest_of_curves (reflexive : demand.key.equals demand.key = true)
    (nonempty : mask.isEmpty = false) (exist : index.HasCurvesOf mask)
    (asks : query.Asks demand mask) (located : index.dataset.pointOf demand.key = .ok point)
    {scored : List ScoredCandidate}
    (scores : ScoresOf index.distance index.dataset point (demand.curveCandidates mask) scored)
    (state : QueryState) :
    ∃ kept left, Nearest demand.count.toNat scored kept ∧
      index.query query state = (.ok (kept.map ScoredCandidate.neighbor), left) :=
  exists_nearest_of_candidates exist asks located scores
    (Demand.candidates_eq reflexive nonempty exist asks state.source)

end Index

end CurveNeighbors
