import CurveNeighbors.Sorting
import CurveNeighbors.Value.Reading

/-!
# Bounded heaps

The closest points seen so far are kept in a heap of bounded size with the worst
of them on top: the farthest one, of several equally far ones that with the
largest row, and of equal rows that with the smallest key. A new entry only has
to be compared with the top to decide whether it replaces it, and since the
smaller row is kept on ties, what is retained does not depend on the order in
which entries arrive. Only an entry at an undefined distance, which is neither
better nor worse than others, keeps the place that it happens to have.

There is room for an entry for as long as there are fewer than the capacity says,
which need not be an integer. A capacity that is no number at all stops every
insertion.

The heap is the usual array in level order, in which no entry is worse than its
parent. Keys without an order can stop a comparison; the heap is then left as it
was at that moment. In particular an entry is appended before it is compared, so
one that was added in vain stays.
-/

namespace CurveNeighbors

/-- A point that was seen: its distance, its row and its key. -/
structure HeapEntry where
  distance : Float
  row : Number
  key : Value

namespace HeapEntry

/-- Whether an entry is worse than another. Only entries with equal distance and row are compared by
their keys, and only if those differ. An undefined distance makes an entry neither worse nor better
than any. -/
def worse? (entry other : HeapEntry) : Option Bool :=
  let place := Binary64.place entry.distance
  let otherPlace := Binary64.place other.distance
  if Binary64.isUndefined entry.distance || Binary64.isUndefined other.distance then some false
  else if place ≠ otherPlace then some (decide (otherPlace < place))
  else if !entry.row.same other.row then some (other.row.less entry.row)
  else if entry.key.same other.key then some false
  else entry.key.less? other.key

def same (entry other : HeapEntry) : Bool :=
  !Binary64.isUndefined entry.distance && !Binary64.isUndefined other.distance &&
    Binary64.place entry.distance == Binary64.place other.distance &&
    entry.row.same other.row && entry.key.same other.key

end HeapEntry

/-- Entries in level order, the worst one first, and how many there may be. -/
structure BoundedHeap where
  capacity : Value
  entries : Array HeapEntry

namespace BoundedHeap

def empty (capacity : Value) : BoundedHeap := ⟨capacity, #[]⟩

def size (heap : BoundedHeap) : Nat :=
  heap.entries.size

def hasRoom (heap : BoundedHeap) : Outcome Bool := do
  return (Number.whole heap.size).less (← heap.capacity.toNumber)

def worst? (heap : BoundedHeap) : Option HeapEntry :=
  heap.entries[0]?

/-- The distance of the worst entry, which is infinite for a heap without entries. -/
def reach (heap : BoundedHeap) : Float :=
  match heap.worst? with
  | some entry => entry.distance
  | none => Binary64.ofMagnitudeBits false Binary64.infinityBits

/-- Lets an entry rise for as long as it is worse than its parent. -/
def rise (entries : Array HeapEntry) (position : Nat) : Outcome Unit × Array HeapEntry :=
  if 0 < position then
    let parent := (position - 1) / 2
    match entries[position]?, entries[parent]? with
    | some entry, some above =>
        match entry.worse? above with
        | none => (.error .unordered, entries)
        | some false => (.ok (), entries)
        | some true => rise (entries.swapIfInBounds position parent) parent
    | _, _ => (.ok (), entries)
  else (.ok (), entries)
termination_by position
decreasing_by omega

/-- The child that takes the place of its parent: the worse one, and of two equally bad ones the
right. -/
def worseChild (entries : Array HeapEntry) (position : Nat) : Outcome Nat :=
  let left := 2 * position + 1
  match entries[left]?, entries[left + 1]? with
  | some entry, some other =>
      match entry.worse? other with
      | none => .error .unordered
      | some true => .ok left
      | some false => .ok (left + 1)
  | _, _ => .ok left

/-- Moves an entry down to where it has no children, the worse child taking its place each time.
Gives the position that is reached. -/
def sink (entries : Array HeapEntry) (position : Nat) : Outcome Nat × Array HeapEntry :=
  if 2 * position + 1 < entries.size then
    match worseChild entries position with
    | .error fault => (.error fault, entries)
    | .ok child =>
        if position < child ∧ child < entries.size then
          sink (entries.swapIfInBounds child position) child
        else (.ok position, entries)
  else (.ok position, entries)
termination_by entries.size - position
decreasing_by
  simp only [Array.size_swapIfInBounds]
  omega

def push (heap : BoundedHeap) (entry : HeapEntry) : Outcome Unit × BoundedHeap :=
  let (outcome, entries) := rise (heap.entries.push entry) heap.size
  (outcome, { heap with entries := entries })

/-- Puts an entry in the place of the worst one, moves it down to a leaf and lets it rise. -/
def replaceWorst (heap : BoundedHeap) (entry : HeapEntry) : Outcome Unit × BoundedHeap :=
  match sink (heap.entries.setIfInBounds 0 entry) 0 with
  | (.error fault, entries) => (.error fault, { heap with entries := entries })
  | (.ok position, entries) =>
      let (outcome, entries) := rise entries position
      (outcome, { heap with entries := entries })

/-- Takes an entry in if there is room, or if it is better than the worst one, whose place it takes.
A heap without room for any entry has no worst one to compare with. -/
def insert (heap : BoundedHeap) (entry : HeapEntry) : Outcome Unit × BoundedHeap :=
  match heap.hasRoom with
  | .error fault => (.error fault, heap)
  | .ok true => heap.push entry
  | .ok false =>
      match heap.worst? with
      | none => (.error .outOfRange, heap)
      | some worst =>
          match worst.worse? entry with
          | none => (.error .unordered, heap)
          | some false => (.ok (), heap)
          | some true => heap.replaceWorst entry

/-- The entries from the best to the worst. They are sorted the other way round, back to front, so
that those of which none is worse keep their order. -/
def sorted (heap : BoundedHeap) : Outcome (List HeapEntry) := do
  let ascending ← sortAscending HeapEntry.worse? HeapEntry.same id heap.entries.toList.reverse
  return ascending.reverse

end BoundedHeap

end CurveNeighbors
