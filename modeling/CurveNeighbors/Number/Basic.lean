import CurveNeighbors.Number.Shortest

/-!
# Numbers

A number is an integer of any size or a double. Integers are never silently
turned into doubles: each conversion rounds once, to the nearest double, and
fails for an integer beyond the largest one.

An undefined number stands for no value, so no other number is the same as it.
One that is passed on is still the number that it was, though: it carries a mark,
by which it is told from all others and recognised again.
-/

namespace CurveNeighbors

/-- An integer of any size, a double, or an undefined number with its mark. -/
inductive Number where
  | whole (value : Int)
  | real (value : Float)
  | undefined (mark : Nat)

namespace Number

def exact : Number → ExactValue
  | .whole value => .ofInt value
  | .real value => Binary64.exact value
  | .undefined _ => .undefined

/-- Whether two numbers stand for one value, or are one undefined number. -/
def same : Number → Number → Bool
  | .undefined left, .undefined right => left == right
  | left, right => left.exact.same right.exact

def less (left right : Number) : Bool :=
  left.exact.less right.exact

/-- Whether the first number lies before the second or stands for the same value. -/
def atMost (left right : Number) : Bool :=
  left.less right || left.exact.same right.exact

def smaller (left right : Number) : Number :=
  if right.less left then right else left

/-- The nearest double, unless the number lies beyond the largest one. -/
def toFloat? : Number → Option Float
  | .whole value => Binary64.ofInt? value
  | .real value => some value
  | .undefined _ => some Binary64.undefinedNumber

/-- The difference: exact for integers, and otherwise of the nearest doubles. -/
def difference? : Number → Number → Option Number
  | .whole left, .whole right => some (.whole (left - right))
  | left, right => do some (.real ((← left.toFloat?) - (← right.toFloat?)))

/-- The product: exact for integers, and otherwise of the nearest doubles. -/
def product? : Number → Number → Option Number
  | .whole left, .whole right => some (.whole (left * right))
  | left, right => do some (.real ((← left.toFloat?) * (← right.toFloat?)))

/-- The quotient: for integers the double nearest to the exact quotient, and otherwise the quotient
of the nearest doubles. The divisor is assumed not to be zero. -/
def quotient? : Number → Number → Option Float
  | .whole left, .whole right =>
      Binary64.nearest? (decide (left < 0) != decide (right < 0)) left.natAbs right.natAbs
  | left, right => do some ((← left.toFloat?) / (← right.toFloat?))

/-- The text of a number: an integer in decimal, a double in its shortest form. -/
def text : Number → String
  | .whole value => toString value
  | .real value => Binary64.text value
  | .undefined _ => Binary64.text Binary64.undefinedNumber

@[simp]
theorem less_whole (left right : Int) :
    (Number.whole left).less (.whole right) = decide (left < right) :=
  decide_eq_decide.mpr Rat.intCast_lt_intCast

@[simp]
theorem same_whole (left right : Int) :
    (Number.whole left).same (.whole right) = decide (left = right) := by
  have same : (ExactValue.finite left == .finite right) = decide (left = right) :=
    decide_eq_decide.mpr (by rw [ExactValue.finite.injEq, Rat.intCast_inj])
  have defined : (ExactValue.finite left != .undefined) = true := bne_iff_ne.mpr nofun
  simp only [Number.same, exact, ExactValue.same, ExactValue.ofInt, same, defined, Bool.and_true]

@[simp]
theorem atMost_whole (left right : Int) :
    (Number.whole left).atMost (.whole right) = decide (left ≤ right) := by
  have same : (Number.whole left).exact.same (Number.whole right).exact = decide (left = right) :=
    same_whole left right
  simp only [atMost, less_whole, same]
  rw [← Bool.decide_or]
  exact decide_eq_decide.mpr (by omega)

@[simp]
theorem smaller_whole (left right : Int) :
    (Number.whole left).smaller (.whole right) = .whole (min left right) := by
  simp only [smaller, less_whole, decide_eq_true_eq]
  split <;> congr 1 <;> omega

end Number

end CurveNeighbors
