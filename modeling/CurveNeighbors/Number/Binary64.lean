import CurveNeighbors.Number.Exact
import CurveNeighbors.Number.Power

/-!
# Double precision numbers

A finite double is `significand * 2 ^ exponent` with a sign. This file takes a
double apart into these three, gives the exact value it stands for, and goes the
other way: `nearest` is the double closest to a quotient of two naturals, a tie
going to the even significand. Everything is done in exact arithmetic on
naturals, so no intermediate result is rounded and a number is rounded at most
once.

Rounding packs the rounded significand and the biased exponent by addition. A
significand that rounds up to the next power of two then carries into the
exponent, which is exactly the double that follows.
-/

namespace CurveNeighbors

namespace Binary64

/-- What the bits of a double say. -/
inductive Parts where
  | finite (negative : Bool) (significand : Nat) (exponent : Int)
  | infinite (negative : Bool)
  | undefined
deriving DecidableEq

/-- The number of bits stored of a significand, whose leading bit is implied. -/
def fractionWidth : Nat := 52

/-- The leading bit of a significand, behind which `fractionWidth` bits follow. -/
def leadingBit : Nat := 0x10000000000000

def signBit : Nat := 0x8000000000000000

/-- The exponent of the smallest double, and of all that have no implied leading bit. -/
def leastExponent : Int := -1074

/-- The bit pattern of positive infinity: every finite magnitude has a smaller one. -/
def infinityBits : Nat := 0x7FF0000000000000

/-- The bits of a double without its sign; they grow with the magnitude. -/
def magnitudeBits (number : Float) : Nat :=
  number.toBits.toNat % signBit

def isNegative (number : Float) : Bool :=
  signBit ≤ number.toBits.toNat

/-- Takes a double apart. -/
def parts (number : Float) : Parts :=
  let magnitude := magnitudeBits number
  let fraction := magnitude % leadingBit
  let biased := magnitude / leadingBit
  if infinityBits < magnitude then .undefined
  else if magnitude = infinityBits then .infinite (isNegative number)
  else if biased = 0 then .finite (isNegative number) fraction leastExponent
  else .finite (isNegative number) (fraction + leadingBit) (leastExponent + (biased - 1))

def scaled (significand : Nat) (exponent : Int) : Rat :=
  let (numerator, denominator) := powerQuotient 2 significand exponent
  mkRat numerator denominator

def exact (number : Float) : ExactValue :=
  match parts number with
  | .finite negative significand exponent =>
      .finite (if negative then -scaled significand exponent else scaled significand exponent)
  | .infinite negative => if negative then .negativeInfinity else .positiveInfinity
  | .undefined => .undefined

/-- The place of a double in the order of all doubles: its magnitude with its sign. The two zeros
share a place, and what is undefined lies beyond the infinities, so that doubles compared by their
places are totally preordered. -/
def place (number : Float) : Int :=
  if isNegative number then -(magnitudeBits number : Int) else magnitudeBits number

def isUndefined (number : Float) : Bool :=
  infinityBits < magnitudeBits number

/-- Rounds a quotient to the closest natural, a tie to the even one. -/
def roundedQuotient (numerator denominator : Nat) : Nat :=
  let quotient := numerator / denominator
  let twiceRest := 2 * (numerator % denominator)
  if denominator < twiceRest ∨ (twiceRest = denominator ∧ quotient % 2 = 1) then quotient + 1
  else quotient

/-- Rounds `numerator / (denominator * 2 ^ exponent)` to the closest natural. -/
def roundedAt (exponent : Int) (numerator denominator : Nat) : Nat :=
  let (scaled, divisor) := powerQuotient 2 numerator (-exponent)
  roundedQuotient scaled (denominator * divisor)

/-- Whether `numerator / denominator` is at least `2 ^ power`. -/
def reachesPower (power : Int) (numerator denominator : Nat) : Bool :=
  let (scaled, divisor) := powerQuotient 2 denominator power
  scaled ≤ numerator * divisor

/-- The exponent at which a positive quotient has a significand of 53 bits, or the least exponent
when it is too small for that. -/
def exponentOf (numerator denominator : Nat) : Int :=
  let guess : Int := numerator.log2 - denominator.log2
  let power := if reachesPower guess numerator denominator then guess else guess - 1
  max leastExponent (power - fractionWidth)

/-- The bits of the magnitude closest to a quotient; those from `infinityBits` on stand for a
quotient beyond the largest finite double. -/
def nearestBits (numerator denominator : Nat) : Nat :=
  if numerator = 0 then 0
  else
    let exponent := exponentOf numerator denominator
    (exponent - leastExponent).toNat * leadingBit + roundedAt exponent numerator denominator

/-- The double with the given sign whose magnitude has the given bits. -/
def ofMagnitudeBits (negative : Bool) (magnitude : Nat) : Float :=
  Float.ofBits (UInt64.ofNat (if negative then magnitude + signBit else magnitude))

def undefinedNumber : Float :=
  Float.ofBits 0x7FF8000000000000

/-- The double closest to a quotient with the given sign, or infinity beyond the largest one. -/
def nearest (negative : Bool) (numerator denominator : Nat) : Float :=
  ofMagnitudeBits negative (min infinityBits (nearestBits numerator denominator))

/-- The double closest to a quotient with the given sign, unless that lies beyond the largest
one. -/
def nearest? (negative : Bool) (numerator denominator : Nat) : Option Float :=
  if nearestBits numerator denominator < infinityBits then
    some (nearest negative numerator denominator)
  else none

/-- The double closest to an integer, unless that lies beyond the largest one. -/
def ofInt? (value : Int) : Option Float :=
  nearest? (value < 0) value.natAbs 1

/-- The double closest to `coefficient * 10 ^ exponent` with the given sign. -/
def ofDecimal (negative : Bool) (coefficient : Nat) (exponent : Int) : Float :=
  let (numerator, denominator) := powerQuotient 10 coefficient exponent
  nearest negative numerator denominator

/-- The integer between a finite double and zero that is closest to it. -/
def truncated (negative : Bool) (significand : Nat) (exponent : Int) : Int :=
  let (numerator, denominator) := powerQuotient 2 significand exponent
  let magnitude : Int := (numerator / denominator : Nat)
  if negative then -magnitude else magnitude

end Binary64

end CurveNeighbors
