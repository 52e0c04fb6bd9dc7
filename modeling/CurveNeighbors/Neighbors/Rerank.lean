import CurveNeighbors.Neighbors.Basic
import CurveNeighbors.Neighbors.BoundedHeap

/-!
# Nearest neighbours with a bounded heap

A query keeps no more of its candidates at any time than it is to give back. Each
candidate is scored when it comes up and then offered to a bounded heap, so the
order of the candidates decides at most which fault is met first.
-/

namespace CurveNeighbors

def offerCandidate (distance : Distance) (dataset : Dataset) (query : Point) (heap : BoundedHeap)
    (candidate : Value) : Counting BoundedHeap := do
  let scored ← scoreCandidate distance dataset query candidate
  match heap.insert ⟨scored.distance, .whole scored.row, scored.key⟩ with
  | (.ok _, heap) => return heap
  | (.error fault, _) => throw fault

def rerank (distance : Distance) (dataset : Dataset) (candidates : List Value) (query : Point)
    (count : Value) : Counting (List Neighbor) := do
  let count ← Counting.pure (readNeighborCount count)
  let heap ← candidates.foldlM (offerCandidate distance dataset query) (.empty (.number count))
  let sorted ← Counting.pure heap.sorted
  return sorted.map fun entry => ⟨entry.key, entry.distance⟩

end CurveNeighbors
