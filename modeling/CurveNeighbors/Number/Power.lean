/-!
# Numbers scaled by a power

A double is a natural times a power of two, and a decimal is one times a power of
ten. With a negative exponent neither is a natural itself, but both are quotients
of two, in which they are compared and rounded without any loss.
-/

namespace CurveNeighbors

/-- The number `coefficient * base ^ exponent` as the numerator and the denominator of a quotient of
two naturals. -/
def powerQuotient (base coefficient : Nat) (exponent : Int) : Nat × Nat :=
  if 0 ≤ exponent then (coefficient * Nat.pow base exponent.toNat, 1)
  else (coefficient, Nat.pow base (-exponent).toNat)

end CurveNeighbors
