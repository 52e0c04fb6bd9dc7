import CurveNeighbors.Value.Basic

/-!
# Numbers that are given with a query

A query is given some integers, which may be of any size or of a machine type. An
integer of a machine type is taken for the number that it stands for. What is
computed from it has to stay within its type, and a query for which this is not so
goes no further here.
-/

namespace CurveNeighbors

/-- An integer of a machine type, and the least and the greatest of its type. -/
structure MachineInteger where
  value : Int
  least : Int
  greatest : Int

/-- What a caller gives for a number. -/
inductive Argument where
  | value (value : Value)
  | machine (integer : MachineInteger)

namespace Argument

def ofInt (value : Int) : Argument :=
  .value (.ofInt value)

def null : Argument :=
  .value .null

/-- The value that an argument stands for. -/
def toValue : Argument → Value
  | .value given => given
  | .machine integer => .ofInt integer.value

/-- Whether all integers between two bounds are within the type of an argument. -/
def holds (low high : Int) : Argument → Bool
  | .value _ => true
  | .machine integer => integer.least ≤ low && high ≤ integer.greatest

end Argument

end CurveNeighbors
