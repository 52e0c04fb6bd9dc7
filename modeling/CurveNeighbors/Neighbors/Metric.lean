import CurveNeighbors.Point.Nested

/-!
# Metrics

A metric compares points by a measure that is cheap to compute and grows with the
distance: the sum or the largest of the differences, or the sum of their squares,
whose root the euclidean distance is. Which of two points is nearer is decided by
their measures, so two that only differ in the last places of a square are told
apart even where their distances are not.
-/

namespace CurveNeighbors

inductive Metric where
  | manhattan
  | euclidean
  | chebyshev
deriving DecidableEq

namespace Metric

/-- The metric that a name stands for. -/
def named? (name : String) : Option Metric :=
  if name = "manhattan" ∨ name = "cityblock" ∨ name = "l1" then some .manhattan
  else if name = "euclidean" ∨ name = "l2" then some .euclidean
  else if name = "chebyshev" ∨ name = "infinity" then some .chebyshev
  else none

/-- The larger of two doubles, and the first one if the second is undefined. -/
def larger (left right : Float) : Float :=
  if left < right then right else left

/-- What two points of one dimension are compared by. -/
def measure (metric : Metric) (left right : Point) : Float :=
  let differences := List.zipWith (fun first second => (first - second).abs) left right
  match metric with
  | .manhattan => differences.foldl (· + ·) 0
  | .euclidean => (differences.map fun difference => difference * difference).foldl (· + ·) 0
  | .chebyshev => differences.foldl larger 0

def distanceOf (metric : Metric) (measure : Float) : Float :=
  if metric = .euclidean then measure.sqrt else measure

def measureOf (metric : Metric) (distance : Float) : Float :=
  if metric = .euclidean then distance * distance else distance

def between (metric : Metric) (left right : Point) : Float :=
  metric.distanceOf (metric.measure left right)

end Metric

end CurveNeighbors
