import CurveNeighbors.Point.Nested
import CurveNeighbors.Random.SeedTree

/-!
# Seeds

A seed may be given in three places, and each takes seeds of its own kinds. A
call takes an integer of 32 bits. A generator that is to be shared takes the same,
or a list of such integers as a key. A batch takes an integer of any size or
nested lists of such integers, whose words are strung together, and there an
integer inside a list may also be spelled out. A truth value is always an integer.

A generator and a batch may also go without a seed. What they start from is then
not up to the caller, and is given here beside the seed.
-/

namespace CurveNeighbors

namespace Seed

def toWord (value : Int) : Outcome UInt32 :=
  if 0 ≤ value ∧ value < 0x100000000 then .ok (UInt32.ofNat value.toNat) else .error .invalidSeed

/-- The generator that a call draws from. -/
def ofCall (seed : Value) : Outcome MersenneTwister :=
  match seed.number? with
  | some (.whole value) => MersenneTwister.ofSeed <$> toWord value
  | _ => .error .invalidSeed

/-- An item of a key, which has to fit into a machine word with a sign before it is looked at more
closely. -/
def keyItem (item : Value) : Outcome Int :=
  match item.number? with
  | some (.whole value) =>
      if -0x8000000000000000 ≤ value ∧ value < 0x8000000000000000 then .ok value
      else .error .notIntegral
  | _ => .error .notIntegral

/-- The words of a key. There has to be one at least, and the items may not be lists. -/
def keyWords (key : Value) : Outcome (List UInt32) := do
  let shape ← Nested.boundedShape key
  let leaves := Nested.leaves key
  if leaves.isEmpty then throw .invalidSeed
  let items ← leaves.mapM keyItem
  if shape.length ≠ 1 then throw .invalidSeed
  items.mapM toWord

/-- The generator that is to be shared by several calls. Without a seed it is a fresh one. -/
def ofGenerator (fresh : MersenneTwister) (seed : Value) : Outcome MersenneTwister :=
  match seed with
  | .null => .ok fresh
  | .list _ => MersenneTwister.ofKey <$> keyWords seed
  | .tuple _ => MersenneTwister.ofKey <$> keyWords seed
  | seed =>
      match seed.number? with
      | some (.whole value) => MersenneTwister.ofSeed <$> toWord value
      | _ => .error .notIntegral

/-- The words of an integer that is not negative. -/
def wordsOfInt (value : Int) : Outcome (List UInt32) :=
  if 0 ≤ value then .ok (SeedTree.wordsOf value.toNat) else .error .invalidSeed

/-- The words of an integer that is spelled out with hexadecimal or decimal digits and begins with
one. -/
def wordsOfText (text : String) : Outcome (List UInt32) :=
  if text.startsWith "0x" then
    match Numeral.hexadecimal? text with
    | some value => .ok (SeedTree.wordsOf value)
    | none => .error .unparsable
  else if Numeral.beginsWithDigit Char.isDigit text.toList then
    match Numeral.integer? text with
    | some value => wordsOfInt value
    | none => .error .unparsable
  else .error .unparsable

mutual

/-- The words of a seed or of an item of one. -/
def words : Value → Outcome (List UInt32)
  | .null => .error .notCollection
  | .truth flag => wordsOfInt flag.toNat
  | .number value =>
      match value with
      | .whole value => wordsOfInt value
      | _ => .error .notIntegral
  | .text content => wordsOfText content
  | .tuple items => allWords items
  | .list items => allWords items
  | .table entries => List.flatten <$> entries.mapM fun entry => wordsOfText entry.1

def allWords : List Value → Outcome (List UInt32)
  | [] => .ok []
  | item :: items => do
      let first ← words item
      let rest ← allWords items
      return first ++ rest

end

/-- The words of the seed of a batch. Without a seed they are those of fresh entropy; a text or a
table is a seed only inside a list. -/
def ofBatch (entropy : Nat) : Value → Outcome (List UInt32)
  | .null => .ok (SeedTree.wordsOf entropy)
  | .text _ => .error .notIntegral
  | .table _ => .error .notIntegral
  | seed => words seed

end Seed

end CurveNeighbors
