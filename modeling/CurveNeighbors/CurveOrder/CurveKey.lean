import CurveNeighbors.Point.Nested
import CurveNeighbors.Sequence

/-!
# Curve keys

A curve key assigns to each point the value by which a curve is sorted. It is
called once for each point, in the order of the rows, and told how many calls
came before; so a key may also be a table of values, or fail at a certain call.
-/

namespace CurveNeighbors

/-- The value of a point on a curve, given the number of calls that came before. -/
abbrev CurveKey := Nat → Point → Outcome Value

namespace CurveKey

def ofFloat (value : Float) : Value :=
  .number (.real value)

def factor (value : Value) : Outcome Float := do
  match (← value.toNumber).toFloat? with
  | some result => return result
  | none => throw .tooLarge

/-- The coordinates that an axis selects: one for an integer, which may be counted from the last;
all of them for null or true, and none for false. -/
def selected (axis : Value) (point : Point) : Outcome Point :=
  match axis with
  | .number (.whole place) => List.singleton <$> Sequence.itemAt point place
  | .null => .ok point
  | .truth all => .ok (if all then point else [])
  | _ => .error .outOfRange

/-- The single coordinate that an axis selects, times a factor. -/
def coordinate (axis sign : Value) : CurveKey := fun _ point => do
  match ← selected axis point with
  | [coordinate] => return ofFloat (coordinate * (← factor sign))
  | _ => throw .notNumeric

def constant : CurveKey := fun _ _ => .ok (.ofInt 0)

/-- The sum of products of weights and coordinates, starting from zero and taken from the first to
the last, each product and each sum rounded. Weights without a coordinate and coordinates without a
weight do not count. -/
def weightedSum (total : Float) : List Value → Point → Outcome Float
  | [], _ => .ok total
  | _ :: _, [] => .ok total
  | weight :: weights, coordinate :: point => do
      weightedSum (total + (← factor weight) * coordinate) weights point

def linear (weights : List Value) : CurveKey := fun _ point => do
  return ofFloat (← weightedSum 0 weights point)

/-- The values of a table in turn, whatever the points. -/
def tabulated (values : List Value) : CurveKey := fun calls _ =>
  match values[calls]? with
  | some value => .ok value
  | none => .error .outOfRange

/-- The same value for all points, until the given number of calls has been made. -/
def failingAfter (limit : Int) : CurveKey := fun calls _ =>
  if (calls : Int) < limit then .ok (.ofInt 0) else .error .curveKeyFailed

end CurveKey

end CurveNeighbors
