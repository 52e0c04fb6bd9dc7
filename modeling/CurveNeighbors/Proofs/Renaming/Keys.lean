import CurveNeighbors.Proofs.KeySequence
import CurveNeighbors.Proofs.Neighbors.Scoring

/-!
# Sequences of renamed keys

A renaming gives each key of a sequence another one, which may be of any type, so that
keys are told apart afterwards as they were before. All that a sequence is asked is
whether a key is in it and at which place, and both are settled by comparing keys. So the
answers for a renamed key in the renamed sequence are those for the key itself, and what
is added under new names is what was added under the old ones.
-/

namespace CurveNeighbors

namespace KeySequence

/-- Keys that are in a sequence are equal under their new names if they are equal. -/
def IsRenaming (sequence : KeySequence) (rename : Key → Key) : Prop :=
  ∀ left right, sequence.contains left = true → sequence.contains right = true →
    (rename left == rename right) = (left == right)

/-- All keys of a sequence are in another one. -/
def Within (sequence whole : KeySequence) : Prop :=
  ∀ key ∈ sequence.keys, whole.contains key = true

theorem Within.insert {sequence whole : KeySequence} (within : sequence.Within whole) {key : Key}
    (present : whole.contains key = true) : (sequence.insert key).Within whole := by
  intro other isKey
  rcases mem_of_mem_insert isKey with isOld | rfl
  · exact within other isOld
  · exact present

theorem empty_within (whole : KeySequence) : empty.Within whole := by
  intro key impossible
  simp [empty] at impossible

theorem eq_of_keys {left right : KeySequence} (same : left.keys = right.keys) : left = right := by
  rcases left with ⟨keys, distinct⟩
  rcases right with ⟨others, otherDistinct⟩
  cases same
  rfl

/-- A sequence has the keys of another one under new names. -/
def RenamedTo (sequence : KeySequence) (rename : Key → Key) (other : KeySequence) : Prop :=
  other.keys = sequence.keys.map rename

namespace RenamedTo

variable {sequence other : KeySequence} {rename : Key → Key}

theorem size_eq (renamed : sequence.RenamedTo rename other) : other.size = sequence.size := by
  rw [size, renamed, List.length_map, size]

theorem getElem?_eq (renamed : sequence.RenamedTo rename other) (place : Nat) :
    other.keys[place]? = sequence.keys[place]?.map rename := by
  rw [renamed, List.getElem?_map]

/-- Any order of the renamed keys is an order of the keys under their new names. -/
theorem exists_visited (renamed : sequence.RenamedTo rename other) {visited : List Key}
    (perm : visited.Perm other.keys) :
    ∃ order : List Key, order.Perm sequence.keys ∧ visited = order.map rename := by
  rw [renamed] at perm
  have named : List.Forall₂ (fun name key => name = rename key) (sequence.keys.map rename)
      sequence.keys := by
    rw [List.forall₂_map_left_iff, List.forall₂_same]
    exact fun key _ => rfl
  rcases List.perm_comp_forall₂ perm named with ⟨order, each, isOrder⟩
  refine ⟨order, isOrder, ?_⟩
  rw [← List.forall₂_eq_eq_eq, List.forall₂_map_right_iff]
  exact each

end RenamedTo

theorem empty_renamedTo (rename : Key → Key) : empty.RenamedTo rename empty :=
  rfl

namespace IsRenaming

variable {whole part other first second left right : KeySequence} {rename : Key → Key} {key : Key}
  {keys : List Key} (faithful : whole.IsRenaming rename)

include faithful

theorem any_map (known : ∀ key ∈ keys, whole.contains key = true)
    (present : whole.contains key = true) :
    (keys.map rename).any (· == rename key) = keys.any (· == key) := by
  rw [List.any_map, Bool.eq_iff_iff, List.any_eq_true, List.any_eq_true]
  apply exists_congr
  intro member
  apply and_congr_right
  intro isMember
  simp only [Function.comp, faithful member key (known member isMember) present]

theorem pairwise_map (known : ∀ key ∈ keys, whole.contains key = true)
    (different : keys.Pairwise fun earlier later => (earlier == later) = false) :
    (keys.map rename).Pairwise fun earlier later => (earlier == later) = false := by
  rw [List.pairwise_map]
  apply different.imp_of_mem
  intro left right isLeft isRight unequal
  rw [faithful left right (known left isLeft) (known right isRight), unequal]

theorem exists_renamedTo (within : part.Within whole) : ∃ other, part.RenamedTo rename other :=
  ⟨⟨part.keys.map rename, faithful.pairwise_map within part.distinct⟩, rfl⟩

/-! ## Questions about renamed keys -/

theorem contains_eq (within : part.Within whole) (renamed : part.RenamedTo rename other)
    (present : whole.contains key = true) : other.contains (rename key) = part.contains key := by
  rw [contains, renamed]
  exact faithful.any_map within present

theorem position?_eq (within : part.Within whole) (renamed : part.RenamedTo rename other)
    (present : whole.contains key = true) : other.position? (rename key) = part.position? key := by
  apply Option.ext
  intro place
  rw [position?_eq_some_iff, position?_eq_some_iff]
  simp only [renamed.getElem?_eq, Option.map_eq_some_iff]
  constructor
  · rintro ⟨_, ⟨holder, isHolder, rfl⟩, same⟩
    have isMember := List.mem_of_getElem? isHolder
    rw [faithful holder key (within holder isMember) present] at same
    exact ⟨holder, isHolder, same⟩
  · rintro ⟨holder, isHolder, same⟩
    have isMember := List.mem_of_getElem? isHolder
    rw [← faithful holder key (within holder isMember) present] at same
    exact ⟨rename holder, ⟨holder, isHolder, rfl⟩, same⟩

/-- A renamed key is at the place of the key. -/
theorem position_eq_ok (within : part.Within whole) (renamed : part.RenamedTo rename other)
    {place : Nat} (present : whole.contains key = true) :
    other.position (rename key) = .ok place ↔ part.position key = .ok place := by
  rw [KeySequence.position_eq_ok, KeySequence.position_eq_ok,
    faithful.position?_eq within renamed present]

theorem covers_eq (firstWithin : first.Within whole) (secondWithin : second.Within whole)
    (isLeft : first.RenamedTo rename left) (isRight : second.RenamedTo rename right) :
    left.covers right = first.covers second := by
  rw [Bool.eq_iff_iff, covers_iff, covers_iff, isLeft.size_eq, isRight.size_eq, isRight]
  apply and_congr_right
  intro _
  simp only [List.forall_mem_map]
  apply forall₂_congr
  intro key isKey
  rw [faithful.contains_eq firstWithin isLeft (secondWithin key isKey)]

/-! ## Adding renamed keys -/

theorem insert (within : part.Within whole) (renamed : part.RenamedTo rename other)
    (present : whole.contains key = true) :
    (part.insert key).RenamedTo rename (other.insert (rename key)) := by
  have same := faithful.contains_eq within renamed present
  cases found : part.contains key with
  | true =>
      rw [RenamedTo, keys_insert_of_contains found,
        keys_insert_of_contains (same.trans found), renamed]
  | false =>
      rw [RenamedTo, keys_insert_of_not_contains found,
        keys_insert_of_not_contains (same.trans found), renamed, List.map_append,
        List.map_singleton]

theorem insertAll (within : part.Within whole) (renamed : part.RenamedTo rename other)
    (known : ∀ key ∈ keys, whole.contains key = true) :
    (part.insertAll keys).RenamedTo rename (other.insertAll (keys.map rename)) := by
  induction keys generalizing part other with
  | nil => exact renamed
  | cons key keys ih =>
      rcases List.forall_mem_cons.mp known with ⟨present, known⟩
      exact ih (within.insert present) (faithful.insert within renamed present) known

end IsRenaming

/-! ## Renaming place by place -/

/-- The renaming that gives a key the one that stands at its place in another sequence. -/
def rename (sequence names : KeySequence) (key : Key) : Key :=
  ((sequence.position? key).bind (names.keys[·]?)).getD key

section

variable {sequence names : KeySequence} (sameSize : names.size = sequence.size)

include sameSize

theorem exists_rename_eq {key : Key} (present : sequence.contains key = true) :
    ∃ (place : Nat) (inside : place < names.keys.length),
      sequence.position key = .ok place ∧ sequence.rename names key = names.keys[place] := by
  rcases exists_position_iff.mpr present with ⟨place, placed⟩
  have inside : place < names.keys.length :=
    lt_of_lt_of_eq (lt_size_of_position placed) sameSize.symm
  refine ⟨place, inside, placed, ?_⟩
  rw [rename, KeySequence.position_eq_ok.mp placed, Option.bind_some,
    List.getElem?_eq_getElem inside, Option.getD_some]

/-- Any keys that are different from each other and equal to themselves may be the new names. -/
theorem isRenaming_rename (reflexive : ∀ name ∈ names.keys, (name == name) = true) :
    sequence.IsRenaming (sequence.rename names) := by
  intro left right isLeft isRight
  rcases exists_rename_eq sameSize isLeft with ⟨place, inside, placed, leftName⟩
  rcases exists_rename_eq sameSize isRight with ⟨other, otherInside, otherPlaced, rightName⟩
  rw [leftName, rightName, Bool.eq_iff_iff]
  constructor
  · intro same
    cases getElem_beq_getElem inside otherInside same
    exact beq_of_position placed otherPlaced
  · intro same
    cases (position_congr same placed).symm.trans otherPlaced
    exact reflexive _ (List.getElem_mem inside)

end

/-! ## Reading keys that are different -/

theorem foldlM_append_eq {repeated : Key → Fault} {sequence : KeySequence} {keys : List Key}
    (different : keys.Pairwise fun earlier later => (earlier == later) = false)
    (fresh : ∀ key ∈ keys, sequence.contains key = false) :
    (keys.map fun key => (.ok key.value : Outcome Value)).foldlM (append repeated) sequence =
      .ok (sequence.insertAll keys) := by
  induction keys generalizing sequence with
  | nil => rfl
  | cons key keys ih =>
      rcases List.pairwise_cons.mp different with ⟨isNew, different⟩
      rcases List.forall_mem_cons.mp fresh with ⟨absent, fresh⟩
      have step : append repeated sequence (.ok key.value) = .ok (sequence.insert key) := by
        rw [append, Outcome.ok_bind, key.toKey_value, Outcome.ok_bind, if_neg (by simp [absent])]
      rw [List.map_cons, List.foldlM_cons, step, Outcome.ok_bind]
      apply ih different
      intro other isOther
      rw [contains_insert, fresh other isOther, isNew other isOther, Bool.or_false]

/-- Keys that are different are all read, in their order. -/
theorem read_eq_ok (repeated : Key → Fault) (sequence : KeySequence) :
    read repeated (sequence.keys.map fun key => .ok key.value) = .ok sequence := by
  have fresh : ∀ key ∈ sequence.keys, empty.contains key = false := fun _ _ => rfl
  have same : empty.insertAll sequence.keys = sequence :=
    eq_of_keys (keys_insertAll sequence.distinct fresh)
  rw [read, foldlM_append_eq sequence.distinct fresh, same]

end KeySequence

end CurveNeighbors
