import CurveNeighbors.Fault
import CurveNeighbors.Text.Numeral

/-!
# Reading values

Where a key, an integer or a coordinate is needed, a value of any type may have
been given. Each reader says which types it accepts, and which fault the others
are.
-/

namespace CurveNeighbors

namespace Value

/-- The items that a value is a collection of, if it is one: those of a sequence, the characters of
a text, the names of a table. -/
def items? : Value → Option (List Value)
  | .tuple items => some items
  | .list items => some items
  | .text content => some (content.toList.map fun character => .text (String.singleton character))
  | .table entries => some (entries.map fun entry => .text entry.1)
  | _ => none

def toItems (value : Value) : Outcome (List Value) :=
  match value.items? with
  | some items => .ok items
  | none => .error .notCollection

/-- A pair is read from any collection of two items. -/
def toPair (value : Value) : Outcome (Value × Value) := do
  match ← value.toItems with
  | [first, second] => return (first, second)
  | _ => throw .notPair

/-- The item at a place of a collection. A table is asked for the entry under the number of the
place, which it cannot have, because its names are texts. -/
def itemAt (value : Value) (place : Nat) : Outcome Value :=
  match value with
  | .table _ => .error (.unknownKey ⟨.ofInt place, rfl⟩)
  | value => do
      match (← value.toItems)[place]? with
      | some item => return item
      | none => throw .outOfRange

/-- A key is read from a value in which nothing can change. -/
def toKey (value : Value) : Outcome Key :=
  if hashable : value.isHashable = true then .ok ⟨value, hashable⟩ else .error .unhashable

def toPosition (value : Value) : Outcome Int :=
  match value.number? with
  | some (.whole position) => .ok position
  | _ => .error .notIntegral

/-- The beginning of a slice is read from a position; null is the beginning of the sequence. -/
def toSliceStart : Value → Outcome Int
  | .null => .ok 0
  | value => value.toPosition

def toNumber (value : Value) : Outcome Number :=
  match value.number? with
  | some result => .ok result
  | none => .error .notNumeric

def integerPart (number : Float) : Outcome Int :=
  match Binary64.parts number with
  | .finite negative significand exponent =>
      .ok (Binary64.truncated negative significand exponent)
  | .infinite _ => .error .infiniteInteger
  | .undefined => .error .undefinedInteger

/-- An integer is read from any number, whose fraction is dropped, from a truth value, or from a
text that spells an integer. -/
def toInt : Value → Outcome Int
  | .truth flag => .ok (if flag then 1 else 0)
  | .number (.whole value) => .ok value
  | .number (.real value) => integerPart value
  | .number (.undefined _) => .error .undefinedInteger
  | .text content =>
      match Numeral.integer? content with
      | some value => .ok value
      | none => .error .unparsable
  | .null => .error .notIntegral
  | .tuple _ => .error .notIntegral
  | .list _ => .error .notIntegral
  | .table _ => .error .notIntegral

/-- A double is read from any number or truth value, or from a text that spells a number. -/
def toDouble : Value → Outcome Float
  | .text content =>
      match Numeral.real? content with
      | some result => .ok result
      | none => .error .unparsable
  | value => do
      match (← value.toNumber).toFloat? with
      | some result => return result
      | none => throw .tooLarge

/-- A coordinate is read like a double; a missing one is undefined. -/
def toCoordinate : Value → Outcome Float
  | .null => .ok Binary64.undefinedNumber
  | value => value.toDouble

end Value

end CurveNeighbors
