import CurveNeighbors.Sequence
import CurveNeighbors.Value.Reading

/-!
# Sequences of different keys

The keys of a dataset, the order of a curve and a set of candidates are all
sequences in which no key occurs twice. A `KeySequence` carries that fact, so
every key in it has exactly one position, and `position?` is the inverse of
looking a position up. As a set it keeps the key it got first: adding an equal
one changes nothing. Nothing is promised about the order in which the keys of a
set are visited, so an `Arrangement` stands for any such order.
-/

namespace CurveNeighbors

/-- A sequence in which no key occurs twice. -/
structure KeySequence where
  keys : List Key
  distinct : keys.Pairwise fun earlier later => (earlier == later) = false

namespace KeySequence

def empty : KeySequence := ⟨[], .nil⟩

def size (sequence : KeySequence) : Nat :=
  sequence.keys.length

def values (sequence : KeySequence) : List Value :=
  sequence.keys.map (·.value)

def contains (sequence : KeySequence) (key : Key) : Bool :=
  sequence.keys.any (· == key)

def position? (sequence : KeySequence) (key : Key) : Option Nat :=
  sequence.keys.findIdx? (· == key)

/-- The position of the key that equals the given one, which has to be in the sequence. -/
def position (sequence : KeySequence) (key : Key) : Outcome Nat :=
  match sequence.position? key with
  | some position => .ok position
  | none => .error (.unknownKey key)

/-- Appends a key unless an equal one is there already. -/
def insert (sequence : KeySequence) (key : Key) : KeySequence :=
  if fresh : sequence.contains key = false then
    ⟨sequence.keys ++ [key], by
      simp only [contains, List.any_eq_false] at fresh
      simpa [List.pairwise_append, sequence.distinct] using fresh⟩
  else sequence

theorem keys_insert_of_contains {sequence : KeySequence} {key : Key}
    (present : sequence.contains key = true) : (sequence.insert key).keys = sequence.keys := by
  simp [insert, present]

theorem keys_insert_of_not_contains {sequence : KeySequence} {key : Key}
    (fresh : sequence.contains key = false) :
    (sequence.insert key).keys = sequence.keys ++ [key] := by
  simp [insert, fresh]

def insertAll (sequence : KeySequence) (keys : List Key) : KeySequence :=
  keys.foldl insert sequence

/-- Whether two sequences hold equal keys in the same order. -/
def same (left right : KeySequence) : Bool :=
  left.keys == right.keys

/-- Whether two sequences hold equal keys in any order: they are equally long and the first has
every key of the second. -/
def covers (sequence other : KeySequence) : Bool :=
  sequence.size == other.size && other.keys.all sequence.contains

/-- Appends a key that is read from a value and refuses one that is there already. -/
def append (repeated : Key → Fault) (sequence : KeySequence) (item : Outcome Value) :
    Outcome KeySequence := do
  let key ← (← item).toKey
  if sequence.contains key then .error (repeated key) else .ok (sequence.insert key)

/-- Reads keys one after the other, and refuses the first that cannot be read, is no key, or occurs
for the second time. -/
def read (repeated : Key → Fault) (items : List (Outcome Value)) : Outcome KeySequence :=
  items.foldlM (append repeated) empty

/-- The set of the keys that are read from the given values. -/
def ofValues (values : List Value) : Outcome KeySequence := do
  let keys ← values.mapM Value.toKey
  return empty.insertAll keys

end KeySequence

/-- An order in which the keys of each set are visited. -/
structure Arrangement where
  visit : KeySequence → List Key
  perm (keys : KeySequence) : (visit keys).Perm keys.keys

namespace Arrangement

/-- The order in which the keys have been added. -/
def asAdded : Arrangement where
  visit := KeySequence.keys
  perm _ := .rfl

/-- The values of the keys of a set, in the order in which they are visited. -/
def values (arrangement : Arrangement) (keys : KeySequence) : List Value :=
  (arrangement.visit keys).map (·.value)

end Arrangement

end CurveNeighbors
