import CurveNeighbors.Value.Reading

/-!
# Calculating with values

Window sizes, scales and numbers of neighbours are multiplied and compared as they
are given, and only then is it asked whether the result is a number. The product
of two numbers is a number. The product of an integer and a sequence is the
sequence repeated, unless that would be too long for a machine word or for
memory. A `Product` says which of the two it is without carrying out the
repetition.
-/

namespace CurveNeighbors

namespace Value

/-- The number of bytes from which on a sequence does not fit into memory. -/
def memoryLimit : Nat := 0x2000000000

/-- The largest length of a sequence. -/
def lengthLimit : Nat := 0x7FFFFFFFFFFFFFFF

/-- The number of repetitions that an integer asks for. It has to fit into a machine word; a
negative one asks for none. -/
def repetitions (count : Int) : Outcome Nat :=
  if -0x8000000000000000 ≤ count ∧ count < 0x8000000000000000 then .ok count.toNat
  else .error .tooLarge

/-- The number of bytes that each character of a text takes, which is that of the widest. -/
def characterWidth (content : String) : Nat :=
  let isBelow (bound : Nat) : Bool := content.toList.all fun character => character.toNat < bound
  if isBelow 0x100 then 1 else if isBelow 0x10000 then 2 else 4

/-- Checks that a sequence can be repeated as often as an integer says. -/
def checkRepetition (value : Value) (count : Int) : Outcome Nat :=
  let checkItems (items : List Value) : Outcome Nat := do
    let times ← repetitions count
    if memoryLimit ≤ 8 * (times * items.length) then throw .outOfMemory else return times
  match value with
  | .text content => do
      let times ← repetitions count
      if 1 < times ∧ lengthLimit / times < content.length then throw .tooLarge
      if memoryLimit ≤ characterWidth content * (times * content.length) then throw .outOfMemory
      return times
  | .tuple items => checkItems items
  | .list items => checkItems items
  | _ => .error .notNumeric

def repeatedItems {α : Type} (items : List α) (times : Nat) : List α :=
  if items.isEmpty then [] else (List.replicate times items).flatten

def repeated (value : Value) (times : Nat) : Value :=
  match value with
  | .text content => .text (String.ofList (repeatedItems content.toList times))
  | .tuple items => .tuple (repeatedItems items times)
  | .list items => .list (repeatedItems items times)
  | value => value

end Value

/-- The product of two values: a number or a sequence that is to be repeated. -/
inductive Product where
  | number (value : Number)
  | repetition (sequence : Value) (times : Nat)

namespace Product

def value : Product → Value
  | .number value => .number value
  | .repetition sequence times => sequence.repeated times

/-- A product as a number, which no sequence is. -/
def toNumber : Product → Outcome Number
  | .number value => .ok value
  | .repetition _ _ => .error .notNumeric

end Product

namespace Value

/-- A sequence that is to be repeated as often as an integer says. -/
def repetition (value : Value) (count : Int) : Outcome Product :=
  Product.repetition value <$> checkRepetition value count

/-- The product of two values, which are two numbers or an integer and a sequence. -/
def product (left right : Value) : Outcome Product :=
  match left.number?, right.number? with
  | some first, some second =>
      match first.product? second with
      | some result => .ok (.number result)
      | none => .error .tooLarge
  | some (.whole count), none => right.repetition count
  | none, some (.whole count) => left.repetition count
  | _, _ => .error .notNumeric

@[simp]
theorem product_ofInt (left right : Int) :
    (ofInt left).product (.ofInt right) = .ok (.number (.whole (left * right))) :=
  rfl

/-- The smaller of two values, and the first if neither is smaller. -/
def smaller (left right : Value) : Outcome Value :=
  match right.less? left with
  | some true => .ok right
  | some false => .ok left
  | none => .error .unordered

@[simp]
theorem smaller_ofInt (left right : Int) :
    (ofInt left).smaller (.ofInt right) = .ok (.ofInt (min left right)) := by
  simp only [smaller, ofInt, less?, number?, Number.less_whole]
  by_cases shorter : right < left
  · simp [shorter, Int.min_eq_right (Int.le_of_lt shorter)]
  · simp [shorter, Int.min_eq_left (Int.not_lt.mp shorter)]

end Value

end CurveNeighbors
