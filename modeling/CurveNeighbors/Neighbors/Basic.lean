import CurveNeighbors.Dataset.Basic
import CurveNeighbors.Distance

/-!
# Neighbours

A neighbour is a key of a dataset together with its distance from the point that
was asked about. A candidate is scored by looking up its row and evaluating the
distance from the query point once.

How many neighbours are asked for may be any number above zero. Whether it has to
be an integer is up to the search, which says so when it comes to that.
-/

namespace CurveNeighbors

structure Neighbor where
  key : Value
  distance : Float

/-- A candidate with its row and its distance from the query point. -/
structure ScoredCandidate where
  key : Value
  row : Nat
  distance : Float

namespace ScoredCandidate

def neighbor (candidate : ScoredCandidate) : Neighbor :=
  ⟨candidate.key, candidate.distance⟩

def isUndefined (candidate : ScoredCandidate) : Bool :=
  Binary64.isUndefined candidate.distance

/-- Whether a candidate is nearer than another or, when both are equally far, has the smaller row.
Where a distance is undefined, neither candidate is the nearer one. -/
def nearer (candidate other : ScoredCandidate) : Bool :=
  let place := Binary64.place candidate.distance
  let otherPlace := Binary64.place other.distance
  if candidate.isUndefined || other.isUndefined then false
  else decide (place < otherPlace) || (place == otherPlace && decide (candidate.row < other.row))

end ScoredCandidate

def readNeighborCount (count : Value) : Outcome Number := do
  let number ← count.toNumber
  if number.atMost (.whole 0) then throw (.nonPositiveCount count) else return number

/-- Looks a candidate up and evaluates its distance from the query point. -/
def scoreCandidate (distance : Distance) (dataset : Dataset) (query : Point) (candidate : Value) :
    Counting ScoredCandidate := do
  let key ← Counting.pure candidate.toKey
  let row ← Counting.pure (dataset.rowOf key)
  let point ← Counting.pure (dataset.pointAt row)
  let value ← distance.evaluate query point
  return ⟨candidate, row, value⟩

end CurveNeighbors
