import CurveNeighbors.Neighbors.BallTree
import CurveNeighbors.Neighbors.Basic

/-!
# Exact nearest neighbours

An exact search answers for keys and for points that are not in the dataset, with
one of three metrics. All coordinates have to be finite, those of the dataset
when the search is set up and those of a query when it is asked.

The points are searched by means of a ball tree, the size of whose leaves may be
chosen. A point at an infinite distance is not found by it. An answer has as many
neighbours as it should all the same: the first point of the dataset, infinitely far
away, stands for each that was not found.
-/

namespace CurveNeighbors

namespace Point

def isFinite (point : Point) : Bool :=
  point.all fun coordinate => Binary64.magnitudeBits coordinate < Binary64.infinityBits

end Point

/-- A dataset with a metric and a tree to search it by. -/
structure ExactSearch where
  dataset : Dataset
  metricName : String
  metric : Metric
  tree : BallTree

namespace ExactSearch

/-- The size of the leaves of a tree: it is at least one, and an integer that fits into a machine
word with a sign. -/
def readLeafSize (leafSize : Value) : Outcome Nat := do
  let number ← leafSize.toNumber
  if number.less (.whole 1) then throw .badLeafSize
  let size ← leafSize.toPosition
  if 0x8000000000000000 ≤ size then throw .tooLarge
  return size.toNat

/-- Sets up a search in a dataset of at least one dimension and finite coordinates. -/
def build (dataset : Dataset) (metricName : String) (leafSize : Value) : Outcome ExactSearch := do
  if dataset.dimension = 0 then throw .wrongDimension
  if !dataset.points.all Point.isFinite then throw .notFinite
  let leafSize ← readLeafSize leafSize
  match Metric.named? metricName with
  | some metric =>
      return ⟨dataset, metricName, metric,
        .ofPoints metric dataset.dimension leafSize dataset.points⟩
  | none => throw .unknownMetric

/-- The number of points to look for. It has to be an integer, unless it is larger than the dataset
and the dataset's size takes its place; a truth value is no integer here. -/
def pointCount (search : ExactSearch) : Value → Outcome Nat
  | .number (.whole count) => .ok (min count.toNat search.dataset.size)
  | .number count =>
      if (Number.whole search.dataset.size).less count then .ok search.dataset.size
      else .error .notIntegral
  | _ => .error .notIntegral

def neighborOf (search : ExactSearch) (finding : BallFinding) : Outcome Neighbor := do
  let key ← search.dataset.keyAt finding.row
  return ⟨key.value, search.metric.distanceOf finding.measure⟩

/-- The `count` points nearest to a point, or all if there are fewer. -/
def nearest (search : ExactSearch) (query : Point) (count : Value) : Outcome (List Neighbor) := do
  if query.length ≠ search.dataset.dimension then throw .wrongDimension
  if !Point.isFinite query then throw .notFinite
  let size ← search.pointCount count
  (search.tree.nearest search.metric query size).mapM search.neighborOf

/-- The `count` points nearest to a point that need not be in the dataset. -/
def nearestToPoint (search : ExactSearch) (query : Point) (count : Value) :
    Outcome (List Neighbor) := do
  let _ ← readNeighborCount count
  search.nearest query count

def nearestToKey (search : ExactSearch) (key : Value) (count : Value) :
    Outcome (List Neighbor) := do
  let _ ← readNeighborCount count
  let query ← search.dataset.pointOf (← key.toKey)
  search.nearest query count

end ExactSearch

end CurveNeighbors
