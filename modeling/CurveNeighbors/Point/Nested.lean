import CurveNeighbors.Value.Reading

/-!
# Points from nested lists

A point is given as nested lists of coordinates. The nesting has to be
rectangular and no deeper than the limit, and that is checked before any
coordinate is read; the point then holds the coordinates in order, whatever the
shape. Anything that is not a list is a coordinate and has no dimension.
-/

namespace CurveNeighbors

/-- The coordinates of a vector. -/
abbrev Point := List Float

namespace Nested

/-- The shape of a list whose items have the given shapes, which have to be one and the same. -/
def listShape : List (List Nat) → Outcome (List Nat)
  | [] => .ok [0]
  | first :: rest =>
      if rest.all (· == first) then .ok ((rest.length + 1) :: first) else .error .ragged

mutual

/-- The lengths of the lists at each level, if all lists of a level are equally long. -/
def shape : Value → Outcome (List Nat)
  | .list items => shapes items >>= listShape
  | .tuple items => shapes items >>= listShape
  | _ => .ok []

def shapes : List Value → Outcome (List (List Nat))
  | [] => .ok []
  | item :: items => do
      let first ← shape item
      let rest ← shapes items
      return first :: rest

end

def depthLimit : Nat := 64

/-- The shape of a nesting that is not too deep. -/
def boundedShape (value : Value) : Outcome (List Nat) := do
  let shape ← shape value
  if depthLimit < shape.length then throw .tooDeep else return shape

mutual

def leaves : Value → List Value
  | .list items => allLeaves items
  | .tuple items => allLeaves items
  | value => [value]

def allLeaves : List Value → List Value
  | [] => []
  | item :: items => leaves item ++ allLeaves items

end

end Nested

def Point.ofValue (value : Value) : Outcome Point := do
  let _ ← Nested.boundedShape value
  (Nested.leaves value).mapM Value.toCoordinate

/-- A point as the list of its coordinates. -/
def Point.toValue (point : Point) : Value :=
  .list (point.map fun coordinate => .number (.real coordinate))

end CurveNeighbors
