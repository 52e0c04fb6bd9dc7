import CurveNeighbors.Dataset.Basic

/-!
# Reading datasets

A dataset is read from a list of pairs, from a mapping, from an array with one
point in each row, from a value that is any of these, or from another dataset. In
every case the keys are read first and a repeated key is refused as soon as it
turns up; then all points are read, and their dimensions are compared last.
-/

namespace CurveNeighbors

namespace Dataset

def ofItems (items : List (Outcome (Value × Value))) : Outcome Dataset := do
  if items.isEmpty then throw .emptyDataset
  let keys ← KeySequence.read .duplicateKey (items.map fun item => item.map Prod.fst)
  let points ← (items.filterMap Except.toOption).mapM fun pair => Point.ofValue pair.2
  ofPoints keys points

def ofPairs (pairs : List (Value × Value)) : Outcome Dataset :=
  ofItems (pairs.map .ok)

/-- Enters a value into a mapping. A key that is there already keeps its place and its form, and
gets the new value. -/
def enter (mapping : List (Key × Value)) (pair : Value × Value) : Outcome (List (Key × Value)) := do
  let key ← pair.1.toKey
  if mapping.any (·.1 == key) then
    return mapping.map fun entry => if entry.1 == key then (entry.1, pair.2) else entry
  else return mapping ++ [(key, pair.2)]

/-- Reads the mapping that results from entering pairs one after the other. -/
def ofMapping (pairs : List (Value × Value)) : Outcome Dataset := do
  let mapping ← pairs.foldlM enter []
  ofPairs (mapping.map fun entry => (entry.1.value, entry.2))

/-- Reads a dataset as the mapping that it is, in which each of its keys is looked up. -/
def copy (dataset : Dataset) : Outcome Dataset := do
  let pairs ← dataset.keys.keys.mapM fun key => do
    let point ← dataset.pointOf key
    return (key.value, point.toValue)
  ofPairs pairs

/-- Reads a table, whose names are the keys, or any collection of pairs. -/
def ofValue : Value → Outcome Dataset
  | .table entries => ofPairs (entries.map fun entry => (.text entry.1, entry.2))
  | value => do
      let items ← value.toItems
      ofItems (items.map Value.toPair)

def arrayRows (array : Value) : Outcome (List Value) := do
  let shape ← Nested.boundedShape array
  if shape.length = 2 then return array.items?.getD [] else throw (.notTwoDimensional shape)

/-- Reads points from rows, under the given keys or under their row numbers. -/
def ofRows (rows : List Value) (keys : Option (List Value)) : Outcome Dataset :=
  match keys with
  | none => ofPairs ((List.range rows.length).map (fun row => .ofInt row) |>.zip rows)
  | some keys =>
      if keys.length = rows.length then ofPairs (keys.zip rows)
      else .error (.keyCountMismatch keys.length rows.length)

def fitsWord (value : Int) : Bool :=
  -0x8000000000000000 ≤ value && value < 0x10000000000000000

/-- Whether an array holds texts and nothing that is not written as a text. An integer is written as
one if it fits into a machine word. -/
def isTextual (leaves : List Value) : Bool :=
  let isText : Value → Bool
    | .text _ => true
    | _ => false
  let hasText : Value → Bool
    | .null => false
    | .table _ => false
    | .number (.whole value) => fitsWord value
    | _ => true
  leaves.any isText && leaves.all hasText

/-- A text without the null characters at its end. -/
def withoutPadding (text : String) : String :=
  String.ofList (text.toList.reverse.dropWhile (·.toNat == 0)).reverse

/-- An item of an array of texts. A truth value is written as a text that spells no number, and the
null characters at the end of a text only fill it up to the width of the array. -/
def asText : Value → Value
  | .truth flag => .text (truthText flag)
  | .text content => .text (withoutPadding content)
  | value => value

/-- The rows of an array as items of one type: if some are texts and all can be, all of them are. -/
def withOneType (rows : List Value) : List Value :=
  if isTextual (Nested.allLeaves rows) then
    rows.map fun row => .list ((Nested.leaves row).map asText)
  else rows

/-- Reads an array with a point in each row. -/
def ofArray (array : Value) (keys : Option (List Value)) : Outcome Dataset := do
  let rows ← arrayRows array
  ofRows (withOneType rows) keys

/-- Reads an array of doubles with a point in each row. All its coordinates are read before its
shape is looked at. -/
def ofCoordinates (array : Value) : Outcome Dataset := do
  let _ ← Point.ofValue array
  let rows ← arrayRows array
  ofRows rows none

end Dataset

end CurveNeighbors
