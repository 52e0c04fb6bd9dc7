import CurveNeighbors.Counting
import CurveNeighbors.Point.Nested

/-!
# Distances

A distance takes two points to a number. Points of different lengths are compared
only when one of them has a single coordinate, which then stands for as many
equal ones as the other has.

Sums of doubles depend on the order of the additions. A long sum is split into
two halves over and over, and a part of at most 128 terms is summed in eight
lanes, which keeps the rounding errors small; fewer than eight terms are added
from the left.
-/

namespace CurveNeighbors

/-- A measure of how far apart two points are. -/
abbrev Distance := Point → Point → Outcome Number

namespace Distance

def paired (left right : Point) : Outcome (List (Float × Float)) :=
  if left.length = right.length then .ok (left.zip right)
  else
    match left, right with
    | [coordinate], right => .ok (right.map fun other => (coordinate, other))
    | left, [coordinate] => .ok (left.map fun other => (other, coordinate))
    | _, _ => .error .lengthsDiffer

/-- The sum of eight lanes, neighbours first. -/
def mergedLanes : List Float → Float
  | [a, b, c, d, e, f, g, h] => ((a + b) + (c + d)) + ((e + f) + (g + h))
  | lanes => lanes.foldl (· + ·) 0

/-- Adds terms to eight lanes in turn and merges them; terms that do not fill all lanes once more
are added at the end. -/
def laneSum (lanes : List Float) : List Float → Float
  | a :: b :: c :: d :: e :: f :: g :: h :: rest =>
      laneSum (List.zipWith (· + ·) lanes [a, b, c, d, e, f, g, h]) rest
  | rest => rest.foldl (· + ·) (mergedLanes lanes)

/-- Where a long sum is split: at the middle, rounded down to a multiple of eight. -/
def splitPlace (length : Nat) : Nat :=
  length / 2 - length / 2 % 8

/-- The sum of terms, of long ones by halves and of short ones in eight lanes. -/
def pairwiseSum (terms : List Float) : Float :=
  if terms.length ≤ 128 then
    if terms.length < 8 then terms.foldl (· + ·) 0
    else laneSum (terms.take 8) (terms.drop 8)
  else
    pairwiseSum (terms.take (splitPlace terms.length)) +
      pairwiseSum (terms.drop (splitPlace terms.length))
termination_by terms.length
decreasing_by
  · simp only [List.length_take, splitPlace]
    omega
  · simp only [List.length_drop, splitPlace]
    omega

/-- The sum of the absolute differences. -/
def manhattan : Distance := fun left right => do
  let pairs ← paired left right
  return .real (pairwiseSum (pairs.map fun pair => (pair.1 - pair.2).abs))

/-- The square root of the sum of the squared differences. -/
def euclidean : Distance := fun left right => do
  let pairs ← paired left right
  let squares := pairs.map fun pair => (pair.1 - pair.2) * (pair.1 - pair.2)
  return .real (squares.foldl (· + ·) 0).sqrt

/-- The number of coordinates that differ. An undefined coordinate differs from all others. -/
def hamming : Distance := fun left right => do
  let pairs ← paired left right
  return .whole (pairs.countP fun pair => pair.1 != pair.2)

def unit : Distance := fun _ _ => .ok (.whole 1)

/-- A distance as a double, from one evaluation that is counted. -/
def evaluate (distance : Distance) (left right : Point) : Counting Float := do
  let number ← Counting.once (distance left right)
  match number.toFloat? with
  | some value => return value
  | none => throw .tooLarge

end Distance

end CurveNeighbors
