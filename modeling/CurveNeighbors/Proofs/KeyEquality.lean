import CurveNeighbors.Value.Basic

/-!
# Equality of keys

Two keys may be equal and still look different, so equality of keys is a relation of
its own. It is symmetric and transitive, but not reflexive: a double that stands for
no value is not even equal to itself. A key that is found among others is equal to
one of them, and therefore to itself as well.

An undefined number is found where it was put, and yet does not compare as equal to
itself. For all other keys a comparison says what a lookup finds.
-/

namespace CurveNeighbors

namespace Number

/-- Numbers are the same if they are one undefined number or stand for one value. -/
theorem same_iff {left right : Number} :
    left.same right = true ↔
      (∃ mark, left = .undefined mark ∧ right = .undefined mark) ∨
        left.exact = right.exact ∧ left.exact ≠ .undefined := by
  cases left <;> cases right <;> simp [Number.same, ExactValue.same, exact]
  exact eq_comm

theorem same_symm {left right : Number} (same : left.same right = true) :
    right.same left = true := by
  rw [same_iff] at same ⊢
  rcases same with ⟨mark, isLeft, isRight⟩ | ⟨equal, defined⟩
  · exact Or.inl ⟨mark, isRight, isLeft⟩
  · exact Or.inr ⟨equal.symm, equal ▸ defined⟩

theorem same_trans {left middle right : Number} (first : left.same middle = true)
    (second : middle.same right = true) : left.same right = true := by
  rw [same_iff] at first second ⊢
  rcases first with ⟨mark, isLeft, rfl⟩ | ⟨equal, defined⟩
  · rcases second with ⟨other, isMiddle, isRight⟩ | ⟨_, defined⟩
    · cases isMiddle
      exact Or.inl ⟨mark, isLeft, isRight⟩
    · exact absurd rfl defined
  · rcases second with ⟨other, rfl, _⟩ | ⟨next, _⟩
    · exact absurd equal defined
    · exact Or.inr ⟨equal.trans next, defined⟩

theorem eq_of_undefined_same {mark : Nat} {other : Number}
    (same : (undefined mark).same other = true) : other = .undefined mark := by
  rcases same_iff.mp same with ⟨_, isLeft, isRight⟩ | ⟨_, defined⟩
  · exact isRight.trans isLeft.symm
  · exact absurd rfl defined

end Number

namespace Value

mutual

theorem same_symm : {left right : Value} → left.isHashable = true → left.same right = true →
    right.same left = true
  | .null, right, _, same => by cases right <;> simp_all [Value.same]
  | .truth left, right, _, same => by
      cases right <;> simp_all [Value.same, number?, Number.same_symm]
  | .number left, right, _, same => by
      cases right <;> simp_all [Value.same, number?, Number.same_symm]
  | .text left, right, _, same => by cases right <;> simp_all [Value.same]
  | .tuple left, right, hashable, same => by
      cases right with
      | tuple right =>
          simp only [Value.same, isHashable] at same hashable ⊢
          exact sameItems_symm hashable same
      | _ => simp [Value.same] at same

theorem sameItems_symm : {left right : List Value} → allHashable left = true →
    sameItems left right = true → sameItems right left = true
  | [], right, _, same => by cases right <;> simp_all [sameItems]
  | item :: items, [], _, same => by simp [sameItems] at same
  | item :: items, other :: others, hashable, same => by
      simp only [sameItems, allHashable, Bool.and_eq_true] at same hashable ⊢
      exact ⟨same_symm hashable.1 same.1, sameItems_symm hashable.2 same.2⟩

end

mutual

theorem same_trans : {left middle right : Value} → left.isHashable = true →
    left.same middle = true → middle.same right = true → left.same right = true
  | .null, middle, right, _, first, second => by cases middle <;> simp_all [Value.same]
  | .truth left, middle, right, _, first, second => by
      cases middle <;> cases right <;> simp only [Value.same, number?] at first second ⊢ <;>
        first
          | exact Number.same_trans first second
          | contradiction
  | .number left, middle, right, _, first, second => by
      cases middle <;> cases right <;> simp only [Value.same, number?] at first second ⊢ <;>
        first
          | exact Number.same_trans first second
          | contradiction
  | .text left, middle, right, _, first, second => by
      cases middle <;> cases right <;> simp_all [Value.same]
  | .tuple left, middle, right, hashable, first, second => by
      cases middle with
      | tuple middle =>
          cases right with
          | tuple right =>
              simp only [Value.same, isHashable] at first second hashable ⊢
              exact sameItems_trans hashable first second
          | _ => simp [Value.same] at second
      | _ => simp [Value.same] at first

theorem sameItems_trans : {left middle right : List Value} → allHashable left = true →
    sameItems left middle = true → sameItems middle right = true → sameItems left right = true
  | [], middle, right, _, first, second => by
      cases middle <;> cases right <;> simp_all [sameItems]
  | item :: items, [], right, _, first, _ => by simp [sameItems] at first
  | item :: items, other :: others, [], _, _, second => by simp [sameItems] at second
  | item :: items, other :: others, last :: rest, hashable, first, second => by
      simp only [sameItems, allHashable, Bool.and_eq_true] at first second hashable ⊢
      exact ⟨same_trans hashable.1 first.1 second.1, sameItems_trans hashable.2 first.2 second.2⟩

end

/-- An undefined number is the same as itself alone. -/
theorem eq_of_undefined_same {mark : Nat} {other : Value}
    (same : (Value.number (.undefined mark)).same other = true) :
    other = .number (.undefined mark) := by
  cases other with
  | number value => rw [Number.eq_of_undefined_same same]
  | truth value =>
      have sameNumber :
          (Number.undefined mark).same (.whole (if value then 1 else 0)) = true := same
      cases Number.eq_of_undefined_same sameNumber
  | _ => simp [Value.same, number?] at same

theorem isUndefined_iff {value : Value} :
    value.isUndefined = true ↔ ∃ mark, value = .number (.undefined mark) := by
  unfold isUndefined
  split
  · simp
  · next other => exact ⟨nofun, fun ⟨mark, isUndefined⟩ => absurd isUndefined (other mark)⟩

end Value

namespace Key

/-- Equality of keys is symmetric and transitive. -/
instance : PartialEquivBEq Key where
  symm {left _} same := Value.same_symm left.hashable same
  trans {left _ _} first second := Value.same_trans left.hashable first second

theorem beq_self_of_beq {left right : Key} (same : (left == right) = true) :
    (left == left) = true :=
  BEq.trans same (BEq.symm same)

/-! ## Comparisons -/

variable {key other : Key}

theorem isUndefined_of_beq (same : (other == key) = true) :
    other.value.isUndefined = key.value.isUndefined := by
  have swapped : key.value.same other.value = true := BEq.symm same
  have same : other.value.same key.value = true := same
  rw [Bool.eq_iff_iff, Value.isUndefined_iff, Value.isUndefined_iff]
  constructor
  · rintro ⟨mark, isOther⟩
    rw [isOther] at same
    exact ⟨mark, Value.eq_of_undefined_same same⟩
  · rintro ⟨mark, isKey⟩
    rw [isKey] at swapped
    exact ⟨mark, Value.eq_of_undefined_same swapped⟩

theorem beq_of_equals (equal : other.equals key = true) : (other == key) = true :=
  (Bool.and_eq_true_iff.mp equal).1

theorem beq_self_of_equals (reflexive : key.equals key = true) : (key == key) = true :=
  beq_of_equals reflexive

/-- A comparison with a key that equals itself says whether the other key is the same. -/
theorem equals_eq_beq (reflexive : key.equals key = true) (other : Key) :
    other.equals key = (other == key) := by
  have defined : key.value.isUndefined = false := by
    simpa using (Bool.and_eq_true_iff.mp reflexive).2
  rw [Bool.eq_iff_iff]
  constructor
  · exact beq_of_equals
  · intro same
    have found : other.value.same key.value = true := same
    rw [equals, Value.equals, found, isUndefined_of_beq same, defined]
    rfl

/-- A key that is the same as one that equals itself does so too. -/
theorem equals_self_of_beq (reflexive : key.equals key = true) (same : (other == key) = true) :
    other.equals other = true := by
  have defined : key.value.isUndefined = false := by
    simpa using (Bool.and_eq_true_iff.mp reflexive).2
  have self : other.value.same other.value = true := beq_self_of_beq same
  rw [equals, Value.equals, self, isUndefined_of_beq same, defined]
  rfl

/-- No key compares as equal to one that does not equal itself. -/
theorem equals_eq_false (irreflexive : key.equals key = false) (other : Key) :
    other.equals key = false := by
  apply Bool.eq_false_iff.mpr
  intro equal
  have same := beq_of_equals equal
  have self : key.value.same key.value = true := beq_self_of_beq (BEq.symm same)
  have defined : other.value.isUndefined = false := by
    simpa using (Bool.and_eq_true_iff.mp equal).2
  rw [isUndefined_of_beq same] at defined
  rw [equals, Value.equals, self, defined] at irreflexive
  cases irreflexive

end Key

end CurveNeighbors
