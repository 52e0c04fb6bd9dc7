import CurveNeighbors.Number.Basic

/-!
# Values

Keys, curve keys and the parameters of a query may be of any of the types below,
and which of them are accepted is decided where they are used. A `Value` is
therefore loosely typed, but its two relations are exact.

`Value.same` compares numbers by the value they stand for, whatever their type,
with the truth values counting as zero and one. `Value.less?` orders numbers
among themselves, texts by code point, and sequences by their first unequal
items; between values of different kinds there is no order, and `none` says so.
Two sequences can be ordered even if some of their items cannot: what decides is
the first pair of items that are not the same.

An undefined number is the same as itself alone, wherever it is found again. A
key that is one, or holds one, can therefore be told from all other keys, but it
is never equal to a key that is newly read. `Value.equals` is what a comparison
says: it agrees with `Value.same`, by which keys are looked up, except that an
undefined number does not compare as equal to anything, not even to itself.
-/

namespace CurveNeighbors

/-- A value of any type. -/
inductive Value where
  | null
  | truth (value : Bool)
  | number (value : Number)
  | text (content : String)
  | tuple (items : List Value)
  | list (items : List Value)
  | table (entries : List (String × Value))

namespace Value

instance : Inhabited Value := ⟨.null⟩

def ofInt (value : Int) : Value :=
  .number (.whole value)

/-- Whether a value stands for nothing: null, false, zero, or a text or collection without
content. -/
def isNothing : Value → Bool
  | .null => true
  | .truth value => !value
  | .number value => value.exact == .ofInt 0
  | .text content => content.isEmpty
  | .tuple items => items.isEmpty
  | .list items => items.isEmpty
  | .table entries => entries.isEmpty

/-- The number that a number or a truth value is. -/
def number? : Value → Option Number
  | .truth value => some (.whole (if value then 1 else 0))
  | .number value => some value
  | _ => none

mutual

/-- Whether two values are equal. -/
def same : Value → Value → Bool
  | .null, right =>
      match right with
      | .null => true
      | _ => false
  | .truth left, right =>
      match right.number? with
      | some value => (Number.whole (if left then 1 else 0)).same value
      | none => false
  | .number left, right =>
      match right.number? with
      | some value => left.same value
      | none => false
  | .text left, right =>
      match right with
      | .text right => left == right
      | _ => false
  | .tuple left, right =>
      match right with
      | .tuple right => sameItems left right
      | _ => false
  | .list left, right =>
      match right with
      | .list right => sameItems left right
      | _ => false
  | .table left, right =>
      match right with
      | .table right => left.length == right.length && entriesAmong right left
      | _ => false

/-- Whether two sequences have equal items throughout. -/
def sameItems : List Value → List Value → Bool
  | [], right => right.isEmpty
  | item :: items, right =>
      match right with
      | [] => false
      | other :: others => item.same other && sameItems items others

/-- Whether every entry of a table has an equal one among the given entries. -/
def entriesAmong (others : List (String × Value)) : List (String × Value) → Bool
  | [] => true
  | (name, item) :: entries =>
      (match others.lookup name with
        | some other => item.same other
        | none => false) && entriesAmong others entries

end

/-- Whether a value is an undefined number. -/
def isUndefined : Value → Bool
  | .number (.undefined _) => true
  | _ => false

/-- Whether two values compare as equal. -/
def equals (left right : Value) : Bool :=
  left.same right && !left.isUndefined

mutual

/-- Whether the first value comes before the second, for values that can be ordered. -/
def less? : Value → Value → Option Bool
  | .null, _ => none
  | .truth left, right =>
      match right.number? with
      | some value => some ((Number.whole (if left then 1 else 0)).less value)
      | none => none
  | .number left, right =>
      match right.number? with
      | some value => some (left.less value)
      | none => none
  | .text left, right =>
      match right with
      | .text right => some (decide (left < right))
      | _ => none
  | .tuple left, right =>
      match right with
      | .tuple right => lessItems? left right
      | _ => none
  | .list left, right =>
      match right with
      | .list right => lessItems? left right
      | _ => none
  | .table _, _ => none

/-- The order of two sequences: the first items that differ decide, and failing these the
length. -/
def lessItems? : List Value → List Value → Option Bool
  | [], right => some !right.isEmpty
  | item :: items, right =>
      match right with
      | [] => some false
      | other :: others => if item.same other then lessItems? items others else item.less? other

end

mutual

/-- Whether a value can serve as a key: nothing in it can change. -/
def isHashable : Value → Bool
  | .null => true
  | .truth _ => true
  | .number _ => true
  | .text _ => true
  | .tuple items => allHashable items
  | .list _ => false
  | .table _ => false

def allHashable : List Value → Bool
  | [] => true
  | item :: items => item.isHashable && allHashable items

end

end Value

/-- A key: a value in which nothing can change. -/
structure Key where
  value : Value
  hashable : value.isHashable = true

namespace Key

/-- Keys are told apart by `Value.same` only. -/
instance : BEq Key := ⟨fun left right => left.value.same right.value⟩

/-- Whether two keys compare as equal. All keys do that are the same, unless they are an undefined
number. -/
def equals (left right : Key) : Bool :=
  left.value.equals right.value

/-- The key of an integer. -/
def ofInt (value : Int) : Key :=
  ⟨.ofInt value, rfl⟩

/-- Whether the first key comes before the second, for keys that can be ordered. -/
def less? (left right : Key) : Option Bool :=
  left.value.less? right.value

end Key

end CurveNeighbors
