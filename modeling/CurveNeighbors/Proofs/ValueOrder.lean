import CurveNeighbors.Proofs.KeyEquality
import Mathlib.Algebra.Order.Field.Rat

/-!
# The order of values

Numbers that stand for values, texts, and tuples of both are in an order, as far as they can
be compared at all: the order is transitive, equal values have the same place in it, and of
two values that can be compared and are not equal exactly one comes first.
-/

namespace CurveNeighbors

/-! ## Numbers -/

namespace ExactValue

variable {first second third : ExactValue}

theorem less_self (value : ExactValue) : value.less value = false := by
  cases value <;> simp [less]

theorem less_trans (before : first.less second = true) (after : second.less third = true) :
    first.less third = true := by
  cases first <;> cases second <;> cases third <;> simp_all [less]
  exact before.trans after

/-- Of two values that are not equal one comes first. -/
theorem eq_or_less (firstDefined : first ≠ .undefined) (secondDefined : second ≠ .undefined)
    (notBefore : first.less second = false) : first = second ∨ second.less first = true := by
  cases first <;> cases second <;> simp_all [less]
  exact notBefore.eq_or_lt.imp Eq.symm id

end ExactValue

namespace Number

variable {left right other : Number}

theorem less_congr_left (same : left.same other = true) : left.less right = other.less right := by
  rcases same_iff.mp same with ⟨mark, rfl, rfl⟩ | ⟨equal, _⟩
  · rfl
  · rw [less, less, equal]

theorem less_congr_right (same : right.same other = true) : left.less right = left.less other := by
  rcases same_iff.mp same with ⟨mark, rfl, rfl⟩ | ⟨equal, _⟩
  · rfl
  · rw [less, less, equal]

end Number

namespace Value

/-! ## Equal values -/

theorem same_congr_left {left right other : Value} (hashable : left.isHashable = true)
    (otherHashable : other.isHashable = true) (same : left.same other = true) :
    left.same right = other.same right := by
  rw [Bool.eq_iff_iff]
  exact ⟨same_trans otherHashable (same_symm hashable same), same_trans hashable same⟩

theorem same_congr_right {left right other : Value} (leftHashable : left.isHashable = true)
    (hashable : right.isHashable = true) (same : right.same other = true) :
    left.same right = left.same other := by
  rw [Bool.eq_iff_iff]
  constructor
  · intro isRight
    exact same_trans leftHashable isRight same
  · intro isOther
    exact same_trans leftHashable isOther (same_symm hashable same)

/-! ## Values that are numbers -/

section

variable {left : Value} {number : Number} (isNumber : left.number? = some number)

include isNumber

theorem same_of_number? (right : Value) : left.same right = right.number?.any number.same := by
  cases left <;> simp_all [number?, Value.same] <;> cases right <;> simp

theorem less?_of_number? (right : Value) : left.less? right = right.number?.map number.less := by
  cases left <;> simp_all [number?, less?] <;> cases right <;> simp

theorem exists_number?_of_same {right : Value} (same : left.same right = true) :
    ∃ other, right.number? = some other ∧ number.same other = true := by
  simpa [same_of_number? isNumber, Option.any_eq_true] using same

theorem exists_number?_of_less? {right : Value} (before : left.less? right = some true) :
    ∃ other, right.number? = some other ∧ number.less other = true := by
  simpa [less?_of_number? isNumber] using before

theorem less?_congr_left_of_number? {other : Value} (same : left.same other = true)
    (right : Value) : left.less? right = other.less? right := by
  rcases exists_number?_of_same isNumber same with ⟨another, isOther, same⟩
  rw [less?_of_number? isNumber, less?_of_number? isOther]
  congr 1
  funext right
  exact Number.less_congr_left same

end

theorem number?_of_not_number {left right : Value} (noNumber : left.number? = none)
    (same : left.same right = true) : right.number? = none := by
  cases left <;> cases right <;> simp_all [number?, Value.same]

theorem less?_congr_right_of_number? {left right other : Value} {number : Number}
    (isNumber : left.number? = some number) (same : right.same other = true) :
    left.less? right = left.less? other := by
  rw [less?_of_number? isNumber, less?_of_number? isNumber]
  cases isRight : right.number? with
  | none => rw [number?_of_not_number isRight same]
  | some found =>
      rcases exists_number?_of_same isRight same with ⟨another, isOther, same⟩
      simp [isOther, Number.less_congr_right same]

theorem less?_trans_of_number? {first second third : Value} {number : Number}
    (isNumber : first.number? = some number) (before : first.less? second = some true)
    (after : second.less? third = some true) : first.less? third = some true := by
  rcases exists_number?_of_less? isNumber before with ⟨middle, isMiddle, before⟩
  rcases exists_number?_of_less? isMiddle after with ⟨last, isLast, after⟩
  simp [less?_of_number? isNumber, isLast, Number.less, ExactValue.less_trans before after]

/-! ## The order -/

mutual

/-- Equal values have the same place in the order. -/
theorem less?_congr_left : {left right other : Value} → left.isHashable = true →
    other.isHashable = true → left.same other = true → left.less? right = other.less? right
  | .null, _, other, _, _, same => by cases other <;> simp_all [Value.same]
  | .truth _, right, _, _, _, same => less?_congr_left_of_number? rfl same right
  | .number _, right, _, _, _, same => less?_congr_left_of_number? rfl same right
  | .text left, _, other, _, _, same => by cases other <;> simp_all [Value.same]
  | .tuple left, right, other, hashable, otherHashable, same => by
      cases other with
      | tuple other =>
          simp only [Value.same, isHashable] at same hashable otherHashable
          cases right with
          | tuple right => exact lessItems?_congr_left hashable otherHashable same
          | _ => rfl
      | _ => simp [Value.same] at same

theorem lessItems?_congr_left : {left right other : List Value} → allHashable left = true →
    allHashable other = true → sameItems left other = true →
      lessItems? left right = lessItems? other right
  | [], _, other, _, _, same => by cases other <;> simp_all [sameItems]
  | item :: items, _, [], _, _, same => by simp [sameItems] at same
  | item :: items, [], another :: others, _, _, _ => by simp [lessItems?]
  | item :: items, last :: rest, another :: others, hashable, otherHashable, same => by
      simp only [sameItems, allHashable, Bool.and_eq_true] at same hashable otherHashable
      simp only [lessItems?]
      rw [same_congr_left hashable.1 otherHashable.1 same.1,
        less?_congr_left hashable.1 otherHashable.1 same.1,
        lessItems?_congr_left hashable.2 otherHashable.2 same.2]

end

mutual

theorem less?_congr_right : {left right other : Value} → left.isHashable = true →
    right.isHashable = true → right.same other = true → left.less? right = left.less? other
  | .null, _, _, _, _, _ => by simp [less?]
  | .truth _, _, _, _, _, same => less?_congr_right_of_number? rfl same
  | .number _, _, _, _, _, same => less?_congr_right_of_number? rfl same
  | .text left, right, other, _, _, same => by
      cases right <;> cases other <;> simp_all [Value.same, less?, number?]
  | .tuple left, right, other, hashable, rightHashable, same => by
      cases right with
      | tuple right =>
          cases other with
          | tuple other =>
              simp only [Value.same, isHashable] at same hashable rightHashable
              exact lessItems?_congr_right hashable rightHashable same
          | _ => simp [Value.same] at same
      | _ => cases other <;> simp_all [Value.same, less?, isHashable, number?]

theorem lessItems?_congr_right : {left right other : List Value} → allHashable left = true →
    allHashable right = true → sameItems right other = true →
      lessItems? left right = lessItems? left other
  | left, [], other, _, _, same => by cases other <;> simp_all [sameItems]
  | left, item :: items, [], _, _, same => by simp [sameItems] at same
  | [], item :: items, another :: others, _, _, _ => by simp [lessItems?]
  | first :: rest, item :: items, another :: others, hashable, rightHashable, same => by
      simp only [sameItems, allHashable, Bool.and_eq_true] at same hashable rightHashable
      simp only [lessItems?]
      rw [same_congr_right hashable.1 rightHashable.1 same.1,
        less?_congr_right hashable.1 rightHashable.1 same.1,
        lessItems?_congr_right hashable.2 rightHashable.2 same.2]

end

mutual

theorem less?_self : (value : Value) → value.less? value ≠ some true
  | .null => by simp [less?]
  | .truth _ => by simp [less?, number?]
  | .number value => by simp [less?, number?, Number.less, ExactValue.less_self]
  | .text _ => by simp [less?]
  | .tuple items => lessItems?_self items
  | .list items => lessItems?_self items
  | .table _ => by simp [less?]

theorem lessItems?_self : (items : List Value) → lessItems? items items ≠ some true
  | [] => by simp [lessItems?]
  | item :: items => by
      rw [lessItems?]
      split
      · exact lessItems?_self items
      · exact less?_self item

end

/-- A value that comes before another is not equal to it. -/
theorem not_same_of_less? {left right : Value} (hashable : left.isHashable = true)
    (rightHashable : right.isHashable = true) (before : left.less? right = some true) :
    left.same right = false := by
  apply Bool.eq_false_iff.mpr
  intro same
  rw [less?_congr_left hashable rightHashable same] at before
  exact less?_self right before

mutual

/-- The order is transitive. -/
theorem less?_trans : {first second third : Value} → first.isHashable = true →
    second.isHashable = true → third.isHashable = true → first.less? second = some true →
      second.less? third = some true → first.less? third = some true
  | .null, _, _, _, _, _, before, _ => by simp [less?] at before
  | .truth _, _, _, _, _, _, before, after => less?_trans_of_number? rfl before after
  | .number _, _, _, _, _, _, before, after => less?_trans_of_number? rfl before after
  | .text first, second, third, _, _, _, before, after => by
      cases second with
      | text second =>
          cases third with
          | text third =>
              simp only [less?, Option.some_inj, decide_eq_true_eq] at *
              exact String.lt_trans before after
          | _ => simp [less?] at after
      | _ => simp [less?] at before
  | .tuple first, second, third, firstHashable, secondHashable, thirdHashable, before, after => by
      cases second with
      | tuple second =>
          cases third with
          | tuple third =>
              simp only [less?, isHashable] at *
              exact lessItems?_trans firstHashable secondHashable thirdHashable before after
          | _ => simp [less?] at after
      | _ => simp [less?] at before

theorem lessItems?_trans : {first second third : List Value} → allHashable first = true →
    allHashable second = true → allHashable third = true → lessItems? first second = some true →
      lessItems? second third = some true → lessItems? first third = some true
  | first, [], third, _, _, _, before, _ => by cases first <;> simp [lessItems?] at before
  | [], item :: items, third, _, _, _, before, after => by
      cases third <;> simp_all [lessItems?]
  | item :: items, other :: others, [], _, _, _, _, after => by simp [lessItems?] at after
  | first :: firsts, second :: seconds, third :: thirds, firstHashable, secondHashable,
      thirdHashable, before, after => by
      simp only [allHashable, Bool.and_eq_true] at firstHashable secondHashable thirdHashable
      simp only [lessItems?] at before after ⊢
      -- The first place at which the items of two neighbors differ decides about the outer two.
      cases isSame : first.same second with
      | true =>
          rw [same_congr_left firstHashable.1 secondHashable.1 isSame,
            less?_congr_left firstHashable.1 secondHashable.1 isSame]
          cases isAlso : second.same third with
          | true =>
              simp only [isSame, isAlso, if_true] at before after ⊢
              exact lessItems?_trans firstHashable.2 secondHashable.2 thirdHashable.2 before after
          | false => simpa [isAlso] using after
      | false =>
          replace before : first.less? second = some true := by simpa [isSame] using before
          cases isAlso : second.same third with
          | true =>
              rw [← same_congr_right firstHashable.1 secondHashable.1 isAlso,
                ← less?_congr_right firstHashable.1 secondHashable.1 isAlso]
              simpa [isSame] using before
          | false =>
              replace after : second.less? third = some true := by simpa [isAlso] using after
              have outer :=
                less?_trans firstHashable.1 secondHashable.1 thirdHashable.1 before after
              simpa [not_same_of_less? firstHashable.1 thirdHashable.1 outer] using outer

end

/-! ## Values that can be ordered -/

mutual

/-- Whether a value is a truth value, a number that stands for a value, a text, or a tuple of
these. -/
def isOrderable : Value → Bool
  | .null => false
  | .truth _ => true
  | .number value => value.exact != .undefined
  | .text _ => true
  | .tuple items => allOrderable items
  | .list _ => false
  | .table _ => false

def allOrderable : List Value → Bool
  | [] => true
  | item :: items => item.isOrderable && allOrderable items

end

mutual

theorem isHashable_of_isOrderable : {value : Value} → value.isOrderable = true →
    value.isHashable = true
  | .null, _ => rfl
  | .truth _, _ => rfl
  | .number _, _ => rfl
  | .text _, _ => rfl
  | .tuple _, orderable => allHashable_of_allOrderable orderable

theorem allHashable_of_allOrderable : {items : List Value} → allOrderable items = true →
    allHashable items = true
  | [], _ => rfl
  | item :: items, orderable => by
      simp only [allOrderable, allHashable, Bool.and_eq_true] at orderable ⊢
      exact ⟨isHashable_of_isOrderable orderable.1, allHashable_of_allOrderable orderable.2⟩

end

theorem exact_ne_undefined {value : Value} {number : Number} (orderable : value.isOrderable = true)
    (isNumber : value.number? = some number) : number.exact ≠ .undefined := by
  cases value <;> simp_all [isOrderable, number?]
  simp [← isNumber, Number.exact, ExactValue.ofInt]

theorem same_or_less?_of_number? {left right : Value} {number : Number}
    (isNumber : left.number? = some number) (orderable : left.isOrderable = true)
    (rightOrderable : right.isOrderable = true) (notBefore : left.less? right = some false) :
    left.same right = true ∨ right.less? left = some true := by
  rw [less?_of_number? isNumber, Option.map_eq_some_iff] at notBefore
  rcases notBefore with ⟨other, isOther, notBefore⟩
  have defined := exact_ne_undefined orderable isNumber
  have otherDefined := exact_ne_undefined rightOrderable isOther
  apply (ExactValue.eq_or_less defined otherDefined notBefore).imp
  · intro equal
    simpa [same_of_number? isNumber, isOther] using Number.same_iff.mpr (.inr ⟨equal, defined⟩)
  · intro after
    simpa [less?_of_number? isOther, isNumber, Number.less] using after

mutual

/-- Of two values that can be compared and are not equal one comes first. -/
theorem same_or_less? : {left right : Value} → left.isOrderable = true →
    right.isOrderable = true → left.less? right = some false →
      left.same right = true ∨ right.less? left = some true
  | .null, _, orderable, _, _ => by cases orderable
  | .truth _, _, orderable, rightOrderable, notBefore =>
      same_or_less?_of_number? rfl orderable rightOrderable notBefore
  | .number _, _, orderable, rightOrderable, notBefore =>
      same_or_less?_of_number? rfl orderable rightOrderable notBefore
  | .text left, right, _, _, notBefore => by
      cases right with
      | text right =>
          simp only [less?, Option.some_inj, decide_eq_false_iff_not, decide_eq_true_eq] at *
          by_cases after : right < left
          · exact .inr after
          · have equal := String.le_antisymm (String.not_lt.mp after) (String.not_lt.mp notBefore)
            simp [Value.same, equal]
      | _ => simp [less?] at notBefore
  | .tuple left, right, orderable, rightOrderable, notBefore => by
      cases right with
      | tuple right => exact sameItems_or_lessItems? orderable rightOrderable notBefore
      | _ => simp [less?] at notBefore

theorem sameItems_or_lessItems? : {left right : List Value} → allOrderable left = true →
    allOrderable right = true → lessItems? left right = some false →
      sameItems left right = true ∨ lessItems? right left = some true
  | [], right, _, _, notBefore => by cases right <;> simp_all [lessItems?, sameItems]
  | item :: items, [], _, _, _ => by simp [lessItems?]
  | item :: items, other :: others, orderable, otherOrderable, notBefore => by
      simp only [allOrderable, Bool.and_eq_true] at orderable otherOrderable
      have hashable := isHashable_of_isOrderable orderable.1
      have otherHashable := isHashable_of_isOrderable otherOrderable.1
      have swapped : other.same item = item.same other := by
        rw [Bool.eq_iff_iff]
        exact ⟨same_symm otherHashable, same_symm hashable⟩
      simp only [lessItems?, sameItems, swapped] at notBefore ⊢
      cases isSame : item.same other with
      | true =>
          simp only [isSame, if_true, Bool.true_and] at notBefore ⊢
          exact sameItems_or_lessItems? orderable.2 otherOrderable.2 notBefore
      | false =>
          replace notBefore : item.less? other = some false := by simpa [isSame] using notBefore
          have decided := same_or_less? orderable.1 otherOrderable.1 notBefore
          simpa [isSame] using decided

end

end Value

end CurveNeighbors
