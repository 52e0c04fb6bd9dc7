import CurveNeighbors.Fault

/-!
# Positions counted from either end

A position in a sequence may be counted from its end, -1 being the last item. An
item outside the sequence is a fault; a slice is cut off at the ends instead.
-/

namespace CurveNeighbors

namespace Sequence

/-- The place that a position means in a sequence of the given length, if there is one. -/
def place? (length : Nat) (position : Int) : Option Nat :=
  let place := if position < 0 then position + length else position
  if 0 ≤ place ∧ place < length then some place.toNat else none

theorem place?_natCast (length position : Nat) :
    place? length position = if position < length then some position else none := by
  unfold place?
  have nonnegative : ¬((position : Int) < 0) := by omega
  by_cases inside : position < length <;> simp [nonnegative, inside]

def itemAt {α : Type} (items : List α) (position : Int) : Outcome α :=
  match (place? items.length position).bind (items[·]?) with
  | some item => .ok item
  | none => .error .outOfRange

theorem itemAt_natCast {α : Type} {items : List α} {position : Nat}
    (inside : position < items.length) :
    itemAt items position = .ok (items.get ⟨position, inside⟩) := by
  simp [itemAt, place?_natCast, inside]

theorem itemAt_of_getElem? {α : Type} {items : List α} {place : Nat} {item : α}
    (found : items[place]? = some item) : itemAt items place = .ok item := by
  rcases List.getElem?_eq_some_iff.mp found with ⟨inside, rfl⟩
  exact itemAt_natCast inside

theorem getElem?_of_itemAt {α : Type} {items : List α} {place : Nat} {item : α}
    (found : itemAt items place = .ok item) : items[place]? = some item := by
  by_cases inside : place < items.length
  · rw [itemAt_natCast inside] at found
    cases found
    exact List.getElem?_eq_getElem inside
  · simp [itemAt, place?_natCast, inside] at found

theorem itemAt_map {α β : Type} (f : α → β) (items : List α) (position : Int) :
    itemAt (items.map f) position = (itemAt items position).map f := by
  rw [itemAt, itemAt, List.length_map]
  cases place? items.length position with
  | none => rfl
  | some place =>
      rw [Option.bind_some, Option.bind_some, List.getElem?_map]
      cases items[place]? <;> rfl

/-- Counted from the end, -1 is the first item of the reversed sequence. -/
theorem itemAt_from_end {α : Type} (items : List α) (places : Nat) :
    itemAt items (-1 - places) =
      match items.reverse[places]? with
      | some item => .ok item
      | none => .error .outOfRange := by
  have negative : (-1 - places : Int) < 0 := by omega
  rw [itemAt, place?, if_pos negative]
  by_cases inside : places < items.length
  · rw [if_pos (by omega), Option.bind_some, List.getElem?_reverse inside]
    have place : (-1 - places + items.length : Int).toNat = items.length - 1 - places := by omega
    rw [place]
  · rw [if_neg (by omega), List.getElem?_eq_none (by simpa using Nat.not_lt.mp inside)]
    rfl

/-- The end of a slice that a position means: no less than zero and no more than the length. -/
def bound (length : Nat) (position : Int) : Nat :=
  let place := if position < 0 then position + length else position
  min place.toNat length

def slice {α : Type} (items : List α) (start stop : Int) : List α :=
  (items.take (bound items.length stop)).drop (bound items.length start)

end Sequence

end CurveNeighbors
