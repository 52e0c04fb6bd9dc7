import CurveNeighbors.KeySequence
import CurveNeighbors.Proofs.KeyEquality
import Mathlib.Data.List.Perm.Subperm

/-!
# Sequences of keys as sets

A sequence of different keys is a set, ordered by the positions of its keys. Its
positions are exactly the places at which an equal key stands, so keys are counted by
counting positions: a sequence whose keys are all in another one is no longer than
that, and if it is just as long it has all keys of the other.

Keys that are added one after the other count once each, and not at all if they are
there already.
-/

namespace CurveNeighbors

namespace KeySequence

theorem contains_iff {sequence : KeySequence} {key : Key} :
    sequence.contains key = true ↔ ∃ member ∈ sequence.keys, (member == key) = true := by
  simp [contains]

theorem contains_congr (sequence : KeySequence) {left right : Key}
    (same : (left == right) = true) : sequence.contains left = sequence.contains right := by
  rw [Bool.eq_iff_iff, contains_iff, contains_iff]
  constructor
  · rintro ⟨member, isMember, found⟩
    exact ⟨member, isMember, BEq.trans found same⟩
  · rintro ⟨member, isMember, found⟩
    exact ⟨member, isMember, BEq.trans found (BEq.symm same)⟩

theorem beq_self_of_contains {sequence : KeySequence} {key : Key}
    (present : sequence.contains key = true) : (key == key) = true := by
  rcases contains_iff.mp present with ⟨member, _, found⟩
  exact Key.beq_self_of_beq (BEq.symm found)

theorem equals_self_of_contains {sequence : KeySequence} {key : Key}
    (reflexive : ∀ member ∈ sequence.keys, member.equals member = true)
    (present : sequence.contains key = true) : key.equals key = true := by
  rcases contains_iff.mp present with ⟨member, isMember, found⟩
  exact Key.equals_self_of_beq (reflexive member isMember) (BEq.symm found)

/-! ## Positions -/

theorem getElem_beq_getElem {sequence : KeySequence} {left right : Nat}
    (leftInside : left < sequence.keys.length) (rightInside : right < sequence.keys.length)
    (same : (sequence.keys[left] == sequence.keys[right]) = true) : left = right := by
  have distinct := List.pairwise_iff_getElem.mp sequence.distinct
  rcases Nat.lt_trichotomy left right with before | equal | after
  · simp [distinct left right leftInside rightInside before] at same
  · exact equal
  · have swapped := BEq.symm same
    simp [distinct right left rightInside leftInside after] at swapped

theorem eq_of_beq_of_mem {sequence : KeySequence} {left right : Key} (isLeft : left ∈ sequence.keys)
    (isRight : right ∈ sequence.keys) (same : (left == right) = true) : left = right := by
  rcases List.getElem_of_mem isLeft with ⟨place, inside, rfl⟩
  rcases List.getElem_of_mem isRight with ⟨other, otherInside, rfl⟩
  cases getElem_beq_getElem inside otherInside same
  rfl

/-- The position of a key is the place at which an equal key stands. -/
theorem position?_eq_some_iff {sequence : KeySequence} {key : Key} {place : Nat} :
    sequence.position? key = some place ↔
      ∃ holder, sequence.keys[place]? = some holder ∧ (holder == key) = true := by
  constructor
  · intro found
    rcases List.findIdx?_eq_some_iff_getElem.mp found with ⟨inside, same, _⟩
    exact ⟨sequence.keys[place], List.getElem?_eq_getElem inside, same⟩
  · rintro ⟨holder, isHolder, same⟩
    rcases List.getElem?_eq_some_iff.mp isHolder with ⟨inside, rfl⟩
    refine List.findIdx?_eq_some_iff_getElem.mpr ⟨inside, same, ?_⟩
    intro earlier isEarlier found
    have equal := getElem_beq_getElem (by omega) inside (BEq.trans found (BEq.symm same))
    omega

theorem position_eq_ok {sequence : KeySequence} {key : Key} {place : Nat} :
    sequence.position key = .ok place ↔ sequence.position? key = some place := by
  rw [position]
  cases sequence.position? key <;> simp

theorem position_eq_ok_iff {sequence : KeySequence} {key : Key} {place : Nat} :
    sequence.position key = .ok place ↔
      ∃ holder, sequence.keys[place]? = some holder ∧ (holder == key) = true := by
  rw [position_eq_ok, position?_eq_some_iff]

theorem exists_position_iff {sequence : KeySequence} {key : Key} :
    (∃ place, sequence.position key = .ok place) ↔ sequence.contains key = true := by
  rw [contains_iff]
  constructor
  · rintro ⟨place, found⟩
    rcases position_eq_ok_iff.mp found with ⟨holder, isHolder, same⟩
    exact ⟨holder, List.mem_of_getElem? isHolder, same⟩
  · rintro ⟨member, isMember, same⟩
    rcases List.getElem?_of_mem isMember with ⟨place, found⟩
    exact ⟨place, position_eq_ok_iff.mpr ⟨member, found, same⟩⟩

theorem position_of_not_contains {sequence : KeySequence} {key : Key}
    (missing : sequence.contains key = false) :
    sequence.position key = .error (.unknownKey key) := by
  cases found : sequence.position? key with
  | none => rw [position, found]
  | some place =>
      have present := exists_position_iff.mp ⟨place, position_eq_ok.mpr found⟩
      rw [missing] at present
      cases present

theorem lt_size_of_position {sequence : KeySequence} {key : Key} {place : Nat}
    (found : sequence.position key = .ok place) : place < sequence.size := by
  rcases position_eq_ok_iff.mp found with ⟨holder, isHolder, _⟩
  exact (List.getElem?_eq_some_iff.mp isHolder).1

theorem position_congr {sequence : KeySequence} {left right : Key} {place : Nat}
    (same : (left == right) = true) (found : sequence.position left = .ok place) :
    sequence.position right = .ok place := by
  rcases position_eq_ok_iff.mp found with ⟨holder, isHolder, isLeft⟩
  exact position_eq_ok_iff.mpr ⟨holder, isHolder, BEq.trans isLeft same⟩

theorem beq_of_position {sequence : KeySequence} {left right : Key} {place : Nat}
    (isLeft : sequence.position left = .ok place)
    (isRight : sequence.position right = .ok place) : (left == right) = true := by
  rcases position_eq_ok_iff.mp isLeft with ⟨holder, isHolder, sameLeft⟩
  rcases position_eq_ok_iff.mp isRight with ⟨other, isOther, sameRight⟩
  cases isHolder.symm.trans isOther
  exact BEq.trans (BEq.symm sameLeft) sameRight

theorem beq_iff_eq_place {sequence : KeySequence} {key holder : Key} {place other : Nat}
    (found : sequence.position key = .ok place)
    (isHolder : sequence.keys[other]? = some holder) : (key == holder) = true ↔ other = place := by
  constructor
  · intro same
    have there := position_eq_ok_iff.mpr ⟨holder, isHolder, BEq.symm same⟩
    exact Except.ok.inj (there.symm.trans found)
  · rintro rfl
    rcases position_eq_ok_iff.mp found with ⟨member, isMember, same⟩
    cases isHolder.symm.trans isMember
    exact BEq.symm same

/-! ## Sequences within one another -/

/-- The positions of the keys of one sequence in another. -/
def positionsIn (sequence other : KeySequence) : List Nat :=
  sequence.keys.filterMap other.position?

theorem nodup_positionsIn (sequence other : KeySequence) :
    (sequence.positionsIn other).Nodup := by
  apply sequence.distinct.filterMap _
  rintro left right different place isLeft other isRight rfl
  have same := beq_of_position (position_eq_ok.mpr isLeft) (position_eq_ok.mpr isRight)
  simp [different] at same

theorem positionsIn_subset_range (sequence other : KeySequence) :
    sequence.positionsIn other ⊆ List.range other.size := by
  intro place isPlace
  rcases List.mem_filterMap.mp isPlace with ⟨key, _, found⟩
  exact List.mem_range.mpr (lt_size_of_position (position_eq_ok.mpr found))

theorem length_positionsIn {sequence other : KeySequence}
    (within : ∀ key ∈ sequence.keys, other.contains key = true) :
    (sequence.positionsIn other).length = sequence.size := by
  rw [positionsIn, List.length_filterMap_eq_countP, List.countP_eq_length.mpr, size]
  intro key isKey
  rcases exists_position_iff.mpr (within key isKey) with ⟨place, found⟩
  rw [position_eq_ok.mp found, Option.isSome_some]

theorem size_le_of_within {sequence other : KeySequence}
    (within : ∀ key ∈ sequence.keys, other.contains key = true) :
    sequence.size ≤ other.size := by
  have subperm := List.subperm_of_subset (sequence.nodup_positionsIn other)
    (sequence.positionsIn_subset_range other)
  simpa [length_positionsIn within] using subperm.length_le

/-- The keys of a sequence within another one that is no longer are at all places of the other. -/
theorem positionsIn_perm {sequence other : KeySequence}
    (within : ∀ key ∈ sequence.keys, other.contains key = true)
    (size : other.size ≤ sequence.size) :
    (sequence.positionsIn other).Perm (List.range other.size) := by
  have subperm := List.subperm_of_subset (sequence.nodup_positionsIn other)
    (sequence.positionsIn_subset_range other)
  exact subperm.perm_of_length_le (by simpa [length_positionsIn within] using size)

theorem exists_mem_of_within {sequence other : KeySequence}
    (within : ∀ key ∈ sequence.keys, other.contains key = true)
    (size : other.size ≤ sequence.size) {place : Nat} (inside : place < other.size) :
    ∃ member ∈ sequence.keys, other.position member = .ok place := by
  have isPlace : place ∈ sequence.positionsIn other :=
    (positionsIn_perm within size).mem_iff.mpr (List.mem_range.mpr inside)
  rcases List.mem_filterMap.mp isPlace with ⟨member, isMember, there⟩
  exact ⟨member, isMember, position_eq_ok.mpr there⟩

theorem contains_of_within {sequence other : KeySequence}
    (within : ∀ key ∈ sequence.keys, other.contains key = true)
    (size : other.size ≤ sequence.size) {key : Key} (present : other.contains key = true) :
    sequence.contains key = true := by
  rcases exists_position_iff.mpr present with ⟨place, found⟩
  rcases exists_mem_of_within within size (lt_size_of_position found) with
    ⟨member, isMember, there⟩
  exact contains_iff.mpr ⟨member, isMember, beq_of_position there found⟩

theorem covers_iff {sequence other : KeySequence} :
    sequence.covers other = true ↔
      sequence.size = other.size ∧ ∀ key ∈ other.keys, sequence.contains key = true := by
  simp [covers]

/-- A sequence that covers another one has the same keys. -/
theorem contains_eq_of_covers {sequence other : KeySequence}
    (covers : sequence.covers other = true) (key : Key) :
    sequence.contains key = other.contains key := by
  rcases covers_iff.mp covers with ⟨size, within⟩
  rw [Bool.eq_iff_iff]
  constructor
  · exact contains_of_within within (Nat.le_of_eq size)
  · intro present
    rcases contains_iff.mp present with ⟨member, isMember, same⟩
    rw [← contains_congr sequence same]
    exact within member isMember

theorem contains_of_mem_of_covers {sequence other : KeySequence}
    (covers : sequence.covers other = true) {key : Key} (isKey : key ∈ sequence.keys) :
    other.contains key = true := by
  rcases covers_iff.mp covers with ⟨size, within⟩
  rcases List.getElem?_of_mem isKey with ⟨place, isPlace⟩
  have inside : place < sequence.size := (List.getElem?_eq_some_iff.mp isPlace).1
  rcases exists_mem_of_within within (Nat.le_of_eq size) inside with ⟨member, isMember, there⟩
  rcases position_eq_ok_iff.mp there with ⟨holder, isHolder, same⟩
  cases isPlace.symm.trans isHolder
  exact contains_iff.mpr ⟨member, isMember, BEq.symm same⟩

/-- A sequence within another one that is no shorter covers it. -/
theorem covers_of_within {sequence other : KeySequence}
    (within : ∀ key ∈ sequence.keys, other.contains key = true)
    (size : other.size ≤ sequence.size) : sequence.covers other = true := by
  refine covers_iff.mpr ⟨Nat.le_antisymm (size_le_of_within within) size, ?_⟩
  intro key isKey
  rcases List.getElem?_of_mem isKey with ⟨place, isPlace⟩
  have inside : place < other.size := (List.getElem?_eq_some_iff.mp isPlace).1
  rcases exists_mem_of_within within size inside with ⟨member, isMember, there⟩
  rcases position_eq_ok_iff.mp there with ⟨holder, isHolder, same⟩
  cases isPlace.symm.trans isHolder
  exact contains_iff.mpr ⟨member, isMember, BEq.symm same⟩

/-! ## Adding keys -/

theorem mem_of_mem_insert {sequence : KeySequence} {key other : Key}
    (isKey : other ∈ (sequence.insert key).keys) : other ∈ sequence.keys ∨ other = key := by
  cases present : sequence.contains key with
  | false => simpa [keys_insert_of_not_contains present] using isKey
  | true => exact Or.inl (by simpa [keys_insert_of_contains present] using isKey)

theorem mem_of_mem_insertAll {sequence : KeySequence} {keys : List Key} {other : Key}
    (isKey : other ∈ (sequence.insertAll keys).keys) : other ∈ sequence.keys ∨ other ∈ keys := by
  induction keys generalizing sequence with
  | nil => exact Or.inl isKey
  | cons key keys ih =>
      rcases ih isKey with old | later
      · rcases mem_of_mem_insert old with older | rfl
        · exact Or.inl older
        · exact Or.inr List.mem_cons_self
      · exact Or.inr (List.mem_cons_of_mem _ later)

theorem contains_insert (sequence : KeySequence) (key other : Key) :
    (sequence.insert key).contains other = (sequence.contains other || key == other) := by
  cases present : sequence.contains key with
  | false => simp [contains, keys_insert_of_not_contains present]
  | true =>
      have unchanged : (sequence.insert key).contains other = sequence.contains other := by
        simp [contains, keys_insert_of_contains present]
      cases same : key == other with
      | false => rw [unchanged, Bool.or_false]
      | true => rw [unchanged, ← contains_congr sequence same, present, Bool.or_true]

theorem contains_empty_insert (key other : Key) :
    (empty.insert key).contains other = (key == other) :=
  contains_insert ..

theorem contains_insertAll (sequence : KeySequence) (keys : List Key) (other : Key) :
    (sequence.insertAll keys).contains other =
      (sequence.contains other || keys.any (· == other)) := by
  induction keys generalizing sequence with
  | nil => simp [insertAll]
  | cons key keys ih =>
      have next : sequence.insertAll (key :: keys) = (sequence.insert key).insertAll keys := rfl
      rw [next, ih, contains_insert, List.any_cons, Bool.or_assoc]

theorem insertAll_append (sequence : KeySequence) (first second : List Key) :
    sequence.insertAll (first ++ second) = (sequence.insertAll first).insertAll second :=
  List.foldl_append

/-- Different keys are appended in their order, apart from those that are there already. -/
theorem keys_insertAll_eq_filter (sequence : KeySequence) {keys : List Key}
    (different : keys.Pairwise fun earlier later => (earlier == later) = false) :
    (sequence.insertAll keys).keys =
      sequence.keys ++ keys.filter fun key => !sequence.contains key := by
  induction keys generalizing sequence with
  | nil => simp [insertAll]
  | cons key keys ih =>
      rcases List.pairwise_cons.mp different with ⟨isNew, different⟩
      have next : sequence.insertAll (key :: keys) = (sequence.insert key).insertAll keys := rfl
      have rest : (keys.filter fun other => !(sequence.insert key).contains other) =
          keys.filter fun other => !sequence.contains other := by
        apply List.filter_congr
        intro other isOther
        simp only [contains_insert, isNew other isOther, Bool.or_false]
      rw [next, ih _ different, rest]
      cases present : sequence.contains key with
      | false => simp [keys_insert_of_not_contains present, present]
      | true => simp [keys_insert_of_contains present, present]

theorem keys_insertAll {sequence : KeySequence} {keys : List Key}
    (different : keys.Pairwise fun earlier later => (earlier == later) = false)
    (fresh : ∀ key ∈ keys, sequence.contains key = false) :
    (sequence.insertAll keys).keys = sequence.keys ++ keys := by
  have all : (keys.filter fun key => !sequence.contains key) = keys := by
    apply List.filter_eq_self.mpr
    intro key isKey
    simp only [fresh key isKey, Bool.not_false]
  rw [keys_insertAll_eq_filter _ different, all]

/-- In whatever order different keys are added, they are the same in the end. -/
theorem insertAll_perm (sequence : KeySequence) {keys others : List Key}
    (different : keys.Pairwise fun earlier later => (earlier == later) = false)
    (perm : others.Perm keys) :
    (sequence.insertAll others).keys.Perm (sequence.insertAll keys).keys := by
  have alsoDifferent : others.Pairwise fun earlier later => (earlier == later) = false := by
    apply (perm.pairwise_iff ?_).mpr different
    intro left right unequal
    simpa only [BEq.comm] using unequal
  simpa only [keys_insertAll_eq_filter _ different, keys_insertAll_eq_filter _ alsoDifferent]
    using (perm.filter _).append_left _

/-- Of different keys, those count that are not there already. -/
theorem size_insertAll (sequence : KeySequence) {keys : List Key}
    (different : keys.Pairwise fun earlier later => (earlier == later) = false) :
    (sequence.insertAll keys).size =
      sequence.size + keys.countP fun key => !sequence.contains key := by
  simp only [size, keys_insertAll_eq_filter _ different, List.length_append,
    List.countP_eq_length_filter]

end KeySequence

namespace Arrangement

theorem values_perm (arrangement : Arrangement) (keys : KeySequence) :
    (arrangement.values keys).Perm keys.values :=
  (arrangement.perm keys).map _

/-- In any arrangement no two values are the same. -/
theorem pairwise_values (arrangement : Arrangement) (keys : KeySequence) :
    (arrangement.values keys).Pairwise fun earlier later => earlier.same later = false := by
  apply List.pairwise_map.mpr
  apply ((arrangement.perm keys).pairwise_iff ?_).mpr keys.distinct
  intro left right unequal
  simpa only [BEq.comm] using unequal

/-- The order in which the key that was added last comes first. -/
def lastFirst : Arrangement where
  visit keys := keys.keys.reverse
  perm keys := keys.keys.reverse_perm

open Classical in
/-- The order in which one set is visited as given, and any other as its keys have been added. -/
noncomputable def visiting (found : KeySequence) {order : List Key}
    (perm : order.Perm found.keys) : Arrangement where
  visit keys := if keys = found then order else keys.keys
  perm keys := by
    split
    · next same => rwa [same]
    · exact .rfl

theorem visit_visiting (found : KeySequence) {order : List Key} (perm : order.Perm found.keys) :
    (visiting found perm).visit found = order :=
  if_pos rfl

end Arrangement

end CurveNeighbors
