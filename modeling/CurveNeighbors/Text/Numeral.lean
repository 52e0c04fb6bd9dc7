import CurveNeighbors.Number.Binary64
import CurveNeighbors.Text.Characters

/-!
# Numerals

A numeral may have blanks around it and a sign before it, and single underscores
between its digits, which may be those of any script. An integer is digits only,
and no more of them than the limit allows. A real number is digits with at most
one point among them and an exponent behind them if need be, or the name of an
infinity or of the undefined number in any case. A hexadecimal numeral begins with
a zero and an x; it has no sign and no limit.
-/

namespace CurveNeighbors

namespace Numeral

def trimmed (text : List Char) : List Char :=
  ((text.dropWhile Characters.isBlank).reverse.dropWhile Characters.isBlank).reverse

/-- The characters of a text in plain digits, without the blanks around it. -/
def characters (text : String) : List Char :=
  trimmed (text.toList.map Characters.plainDigit)

/-- Splits off a sign: whether it is negative, and what follows it. -/
def signed : List Char → Bool × List Char
  | '-' :: rest => (true, rest)
  | '+' :: rest => (false, rest)
  | rest => (false, rest)

def isHexadecimal (character : Char) : Bool :=
  character.isDigit || ('a' ≤ character && character ≤ 'f') ||
    ('A' ≤ character && character ≤ 'F')

def beginsWithDigit (isDigit : Char → Bool) : List Char → Bool
  | [] => false
  | character :: _ => isDigit character

/-- The digits at the beginning of a text without their underscores, and what follows them;
`afterDigit` says whether a digit stands before the text, for an underscore counts only between
two. -/
def digitsFrom (isDigit : Char → Bool) (afterDigit : Bool) : List Char → List Char × List Char
  | [] => ([], [])
  | character :: rest =>
      if isDigit character then
        let (digits, remaining) := digitsFrom isDigit true rest
        (character :: digits, remaining)
      else if afterDigit && character == '_' && beginsWithDigit isDigit rest then
        digitsFrom isDigit false rest
      else ([], character :: rest)

/-- The decimal digits at the beginning of a text without their underscores, and what follows
them. -/
def leadingDigits (text : List Char) : List Char × List Char :=
  digitsFrom Char.isDigit false text

def digitValue (digit : Char) : Nat :=
  if digit.isDigit then digit.toNat - '0'.toNat
  else digit.toLower.toNat - 'a'.toNat + 10

def naturalIn (base : Nat) (digits : List Char) : Nat :=
  digits.foldl (fun value digit => base * value + digitValue digit) 0

def naturalOf (digits : List Char) : Nat :=
  naturalIn 10 digits

def withSign (negative : Bool) (value : Nat) : Int :=
  if negative then -(value : Int) else value

/-- The largest number of digits that an integer is read from, leading zeros included. -/
def digitLimit : Nat := 4300

/-- The integer that a text spells. -/
def integer? (text : String) : Option Int :=
  let (negative, body) := signed (characters text)
  match leadingDigits body with
  | (digits, []) =>
      if digits.isEmpty || digitLimit < digits.length then none
      else some (withSign negative (naturalOf digits))
  | _ => none

/-- The natural that a hexadecimal numeral spells. An underscore may follow the x. -/
def hexadecimal? (text : String) : Option Nat :=
  match characters text with
  | '0' :: 'x' :: rest =>
      match digitsFrom isHexadecimal true rest with
      | (digits, []) => if digits.isEmpty then none else some (naturalIn 16 digits)
      | _ => none
  | _ => none

/-- The exponent at the end of a numeral; without one it is zero. -/
def exponent? : List Char → Option Int
  | [] => some 0
  | mark :: rest =>
      if mark = 'e' ∨ mark = 'E' then
        let (negative, body) := signed rest
        match leadingDigits body with
        | (digits, []) =>
            if digits.isEmpty then none else some (withSign negative (naturalOf digits))
        | _ => none
      else none

/-- The digits behind the point of a numeral, and what follows them. -/
def fractionDigits : List Char → List Char × List Char
  | '.' :: rest => leadingDigits rest
  | rest => ([], rest)

/-- The double closest to a decimal. Zero has no leading digit, whatever its exponent. Any other
leading digit four hundred places from the point is beyond all doubles on either side, so that no
larger power is ever computed. -/
def closest (negative : Bool) (digits : List Char) (exponent : Int) : Float :=
  let significant := digits.dropWhile (· == '0')
  let leading : Int := exponent + significant.length
  if significant.isEmpty || leading < -400 then Binary64.ofMagnitudeBits negative 0
  else if 400 < leading then Binary64.ofMagnitudeBits negative Binary64.infinityBits
  else Binary64.ofDecimal negative (naturalOf significant) exponent

/-- The double that a named number has, if the name is known. -/
def named? (negative : Bool) (name : List Char) : Option Float :=
  let name := String.ofList (name.map Char.toLower)
  if name = "inf" ∨ name = "infinity" then
    some (Binary64.ofMagnitudeBits negative Binary64.infinityBits)
  else if name = "nan" then some Binary64.undefinedNumber
  else none

/-- The double that a text spells. -/
def real? (text : String) : Option Float :=
  let (negative, body) := signed (characters text)
  match named? negative body with
  | some number => some number
  | none =>
      let (whole, behindWhole) := leadingDigits body
      let (fraction, behindFraction) := fractionDigits behindWhole
      if whole.isEmpty && fraction.isEmpty then none
      else do
        let exponent ← exponent? behindFraction
        return closest negative (whole ++ fraction) (exponent - fraction.length)

end Numeral

end CurveNeighbors
