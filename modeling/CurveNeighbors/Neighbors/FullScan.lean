import CurveNeighbors.Neighbors.Basic
import CurveNeighbors.Sorting

/-!
# Nearest neighbours by a full scan

All candidates are scored and sorted, and the first of them are the answer. This
is the plain statement of what the nearest candidates are: ascending distance,
equally far ones by ascending row. Candidates at undefined distances have no place
in this order, so among them the order in which they arrive shows in the answer.
-/

namespace CurveNeighbors

/-- The first of the neighbours that have been found. Their number has to be an integer. -/
def firstNeighbors (found : List Neighbor) : Number → Outcome (List Neighbor)
  | .whole count => .ok (found.take count.toNat)
  | _ => .error .notIntegral

def nearestByScan (distance : Distance) (dataset : Dataset) (candidates : List Value)
    (query : Point) (count : Value) : Counting (List Neighbor) := do
  let count ← Counting.pure (readNeighborCount count)
  let scored ← candidates.mapM (scoreCandidate distance dataset query)
  let sorted := sortStably ScoredCandidate.nearer (!scored.any ScoredCandidate.isUndefined) scored
  Counting.pure (firstNeighbors (sorted.map ScoredCandidate.neighbor) count)

end CurveNeighbors
