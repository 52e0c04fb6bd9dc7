import CurveNeighbors.Counting
import CurveNeighbors.CurveOrder.Basic
import CurveNeighbors.CurveOrder.CurveKey
import CurveNeighbors.Dataset.Basic
import CurveNeighbors.Sorting

/-!
# Building curve orders

The order of a curve is the dataset sorted by a curve key, ascending and stable:
points of equal value stay in the order of their rows. The number of calls of
the curve key is counted, so that it can be said that there is one for each row
and none after the first that fails.
-/

namespace CurveNeighbors

namespace CurveOrder

/-- Calls a curve key and counts the call. -/
def callKey (curveKey : CurveKey) (point : Point) : Counting Value := do
  let calls ← getThe Nat
  Counting.once (curveKey calls point)

/-- The curve that visits the points of a dataset by ascending curve key. -/
def build (dataset : Dataset) (curveKey : CurveKey) (name : Value) :
    Counting CurveOrder := do
  if dataset.size = 0 then throw .curveOverEmptyDataset
  let values ← dataset.points.mapM (callKey curveKey)
  let sorted ← Counting.pure (sortAscending Value.less? Value.same Prod.snd
    (dataset.keys.keys.zip values))
  Counting.pure (ofValues (sorted.map fun entry => entry.1.value) name)

end CurveOrder

end CurveNeighbors
