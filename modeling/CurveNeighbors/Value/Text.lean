import CurveNeighbors.Text.Numeral
import CurveNeighbors.Text.Quoted
import CurveNeighbors.Value.Basic

/-!
# The text of a value

Messages show values in a form that tells their types apart: texts are quoted, a
double always has a point, an exponent or a name, tuples stand in parentheses
with a comma even around a single item, lists in brackets and tables in braces.

An integer with too many digits is not written out at all. `Value.isWritable` says
whether there is one in a value.
-/

namespace CurveNeighbors

/-- Items in parentheses; a single one is followed by a comma. -/
def tupleText (items : List String) : String :=
  match items with
  | [item] => "(" ++ item ++ ",)"
  | items => "(" ++ ", ".intercalate items ++ ")"

def listText (items : List String) : String :=
  "[" ++ ", ".intercalate items ++ "]"

def truthText (value : Bool) : String :=
  if value then "True" else "False"

namespace Value

/-- From this natural on, integers of either sign have too many digits to be written out. -/
def digitBound : Nat := Nat.pow 10 Numeral.digitLimit

mutual

/-- Whether no integer in a value has too many digits to be written out. -/
def isWritable : Value → Bool
  | .number (.whole value) => value.natAbs < digitBound
  | .tuple items => allWritable items
  | .list items => allWritable items
  | .table entries => allEntriesWritable entries
  | _ => true

def allWritable : List Value → Bool
  | [] => true
  | item :: items => item.isWritable && allWritable items

def allEntriesWritable : List (String × Value) → Bool
  | [] => true
  | (_, item) :: entries => item.isWritable && allEntriesWritable entries

end

mutual

def render : Value → String
  | .null => "None"
  | .truth value => truthText value
  | .number value => value.text
  | .text content => Quoted.text content
  | .tuple items => tupleText (renderItems items)
  | .list items => listText (renderItems items)
  | .table entries => "\x7b" ++ ", ".intercalate (renderEntries entries) ++ "\x7d"

def renderItems : List Value → List String
  | [] => []
  | item :: items => item.render :: renderItems items

def renderEntries : List (String × Value) → List String
  | [] => []
  | (name, item) :: entries =>
      (Quoted.text name ++ ": " ++ item.render) :: renderEntries entries

end

/-- A value as it stands in a sentence: a text without quotes, and all else in its usual form. -/
def display : Value → String
  | .text content => content
  | value => value.render

end Value

def Key.render (key : Key) : String :=
  key.value.render

end CurveNeighbors
