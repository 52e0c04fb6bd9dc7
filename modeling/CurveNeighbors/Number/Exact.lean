/-!
# Exact values of numbers

Numbers of different types are compared by the value they stand for and never by
converting one of them to the type of the other: a conversion rounds, and two
numbers that differ would then be taken for equal. An `ExactValue` is that
value: a rational, one of the two infinities, or nothing at all for a number
that is not a value of any kind.
-/

namespace CurveNeighbors

/-- The value that a number stands for. -/
inductive ExactValue where
  | negativeInfinity
  | finite (value : Rat)
  | positiveInfinity
  | undefined
deriving DecidableEq

namespace ExactValue

/-- Two numbers are the same when they stand for one value; an undefined number is the same as
none, itself included. -/
def same (left right : ExactValue) : Bool :=
  left == right && left != .undefined

/-- The strict order of the extended number line, in which an undefined number has no place. -/
def less : ExactValue → ExactValue → Bool
  | .undefined, _ => false
  | _, .undefined => false
  | .negativeInfinity, right => right != .negativeInfinity
  | .finite _, .negativeInfinity => false
  | .finite left, .finite right => decide (left < right)
  | .finite _, .positiveInfinity => true
  | .positiveInfinity, _ => false

def ofInt (value : Int) : ExactValue :=
  .finite value

end ExactValue

end CurveNeighbors
