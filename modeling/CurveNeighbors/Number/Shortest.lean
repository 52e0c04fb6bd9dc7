import CurveNeighbors.Number.Binary64

/-!
# The shortest decimal text of a double

A double is written with the fewest significant digits that read back to it.
For each number of digits the only candidates are the two neighbours of its
exact value on that decimal grid: if any decimal of the grid reads back, one of
these two does. The first grid with a hit decides, of two hits the nearer is
taken, and of two equally near ones the even. Reading back is asked of
`Binary64.nearestBits` itself, so the text and the reader cannot disagree.

How the digits are laid out is a separate decision, and `DecimalLayout.standard`
holds it.
-/

namespace CurveNeighbors

structure Decimal where
  coefficient : Nat
  exponent : Int
deriving DecidableEq

namespace Decimal

def quotient (decimal : Decimal) : Nat × Nat :=
  powerQuotient 10 decimal.coefficient decimal.exponent

/-- Whether reading the decimal gives the double with these magnitude bits. -/
def readsBackTo (decimal : Decimal) (magnitude : Nat) : Bool :=
  let (numerator, denominator) := decimal.quotient
  Binary64.nearestBits numerator denominator == magnitude

/-- Counts how often a fraction below one has to be multiplied by ten to reach one, at most `limit`
times. -/
def leadingZeros (denominator : Nat) : (limit numerator : Nat) → Nat
  | 0, _ => 0
  | limit + 1, numerator =>
      if denominator ≤ numerator then 0 else leadingZeros denominator limit (numerator * 10) + 1

/-- The power of ten of the leading digit of a positive quotient. No double is so small that its
leading digit stands 400 places behind the point. -/
def leadingPower (numerator denominator : Nat) : Int :=
  if denominator ≤ numerator then (Nat.toDigits 10 (numerator / denominator)).length - 1
  else -leadingZeros denominator 400 numerator

/-- The decimal with `digits` significant digits that represents a positive quotient and reads back
to the given magnitude bits, if one of the two neighbours on that grid does. -/
def onGrid? (digits numerator denominator magnitude : Nat) : Option Decimal :=
  let exponent := leadingPower numerator denominator - (digits - 1 : Nat)
  let (scaled, divisor) := powerQuotient 10 numerator (-exponent)
  let lower : Decimal := ⟨scaled / (denominator * divisor), exponent⟩
  let upper : Decimal := ⟨lower.coefficient + 1, exponent⟩
  let nearer : Decimal := ⟨Binary64.roundedQuotient scaled (denominator * divisor), exponent⟩
  if nearer.readsBackTo magnitude then some nearer
  else if lower.readsBackTo magnitude then some lower
  else if upper.readsBackTo magnitude then some upper
  else none

/-- Drops the zeros at the end of a coefficient, at most `limit` of them. -/
def withoutTrailingZeros : (limit : Nat) → Decimal → Decimal
  | 0, decimal => decimal
  | limit + 1, decimal =>
      if decimal.coefficient % 10 = 0 then
        withoutTrailingZeros limit ⟨decimal.coefficient / 10, decimal.exponent + 1⟩
      else decimal

/-- The shortest decimal that reads back to a positive finite double. Seventeen digits always
suffice. -/
def shortest (significand : Nat) (exponent : Int) (magnitude : Nat) : Decimal :=
  let (numerator, denominator) := powerQuotient 2 significand exponent
  let found := (List.range 17).findSome? fun index =>
    onGrid? (index + 1) numerator denominator magnitude
  withoutTrailingZeros 20 (found.getD ⟨0, 0⟩)

end Decimal

/-- How the digits of a decimal are laid out. Exponents of the leading digit from
`leastPositional` to `greatestPositional` are written positionally and all others behind an `e`
with a sign and at least `exponentWidth` digits. -/
structure DecimalLayout where
  leastPositional : Int
  greatestPositional : Int
  exponentWidth : Nat

namespace DecimalLayout

/-- Positional from 0.0001 to below ten to the sixteenth, and two digits in an exponent. -/
def standard : DecimalLayout :=
  ⟨-4, 15, 2⟩

def zeros (count : Nat) : String :=
  String.ofList (List.replicate count '0')

def exponentText (layout : DecimalLayout) (exponent : Int) : String :=
  let digits := toString exponent.natAbs
  (if exponent < 0 then "-" else "+") ++ zeros (layout.exponentWidth - digits.length) ++ digits

/-- The text of a positive decimal, which always shows a point or an exponent. -/
def text (layout : DecimalLayout) (decimal : Decimal) : String :=
  let digits := Nat.toDigits 10 decimal.coefficient
  let leading : Int := decimal.exponent + (digits.length - 1 : Nat)
  if leading < layout.leastPositional ∨ layout.greatestPositional < leading then
    let rest := digits.drop 1
    String.ofList (digits.take 1) ++ (if rest.isEmpty then "" else "." ++ String.ofList rest) ++
      "e" ++ layout.exponentText leading
  else if leading < 0 then
    "0." ++ zeros (-leading - 1).toNat ++ String.ofList digits
  else
    let whole := leading.toNat + 1
    if digits.length ≤ whole then
      String.ofList digits ++ zeros (whole - digits.length) ++ ".0"
    else String.ofList (digits.take whole) ++ "." ++ String.ofList (digits.drop whole)

end DecimalLayout

namespace Binary64

/-- The text of a double: the fewest digits that read back. -/
def text (number : Float) : String :=
  let sign := if isNegative number then "-" else ""
  match parts number with
  | .undefined => "nan"
  | .infinite _ => sign ++ "inf"
  | .finite _ significand exponent =>
      if significand = 0 then sign ++ "0.0"
      else
        sign ++ DecimalLayout.standard.text
          (Decimal.shortest significand exponent (magnitudeBits number))

end Binary64

end CurveNeighbors
