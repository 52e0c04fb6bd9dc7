import CurveNeighbors.Proofs.Rearranging.Orders
import CurveNeighbors.Proofs.ValueOrder
import Mathlib.Data.List.FinRange

/-!
# Building curves

Rows whose values are numbers, texts or comparable tuples have exactly one arrangement in
which value and row ascend together: the lower value comes first, and of rows with equal
values the one that is stored first. A curve that is built of the values visits the keys
in this arrangement. Its curve key is called once for each row, in the order of the rows,
and not again after a call that fails.
-/

namespace CurveNeighbors

namespace Value

/-! ## Values to sort by -/

/-- Values by which rows can be sorted: numbers that stand for values, texts, or tuples of these
that can be compared with one another. -/
inductive Sortable (values : List Value) : Prop where
  | numbers (each : ∀ value ∈ values, value.isOrderable = true ∧ value.number?.isSome = true)
  | texts (each : ∀ value ∈ values, ∃ content, value = .text content)
  | tuples (each : ∀ value ∈ values, ∃ items, value = .tuple items ∧ allOrderable items = true)
      (comparable : ∀ left ∈ values, ∀ right ∈ values, (left.less? right).isSome = true)

namespace Sortable

variable {values : List Value} {value left right : Value}

theorem isOrderable (sortable : Sortable values) (isValue : value ∈ values) :
    value.isOrderable = true := by
  cases sortable with
  | numbers each => exact (each value isValue).1
  | texts each =>
      rcases each value isValue with ⟨content, rfl⟩
      rfl
  | tuples each _ =>
      rcases each value isValue with ⟨items, rfl, orderable⟩
      exact orderable

theorem isHashable (sortable : Sortable values) (isValue : value ∈ values) :
    value.isHashable = true :=
  isHashable_of_isOrderable (sortable.isOrderable isValue)

theorem comparable (sortable : Sortable values) (isLeft : left ∈ values)
    (isRight : right ∈ values) : (left.less? right).isSome = true := by
  cases sortable with
  | numbers each =>
      rcases Option.isSome_iff_exists.mp (each left isLeft).2 with ⟨number, isNumber⟩
      simpa [less?_of_number? isNumber] using (each right isRight).2
  | texts each =>
      rcases each left isLeft with ⟨content, rfl⟩
      rcases each right isRight with ⟨other, rfl⟩
      rfl
  | tuples _ comparable => exact comparable left isLeft right isRight

/-- Of two values one comes first unless they are equal. -/
theorem less?_or_same (sortable : Sortable values) (isLeft : left ∈ values)
    (isRight : right ∈ values) :
    left.less? right = some true ∨ left.same right = true ∨ right.less? left = some true := by
  rcases Option.isSome_iff_exists.mp (sortable.comparable isLeft isRight) with ⟨before, compared⟩
  cases before with
  | true => exact .inl compared
  | false =>
      apply Or.inr
      exact same_or_less? (sortable.isOrderable isLeft) (sortable.isOrderable isRight) compared

theorem trans (sortable : Sortable values) {first second third : Value} (isFirst : first ∈ values)
    (isSecond : second ∈ values) (isThird : third ∈ values)
    (before : first.less? second = some true) (after : second.less? third = some true) :
    first.less? third = some true :=
  less?_trans (sortable.isHashable isFirst) (sortable.isHashable isSecond)
    (sortable.isHashable isThird) before after

theorem countBelow_lt (sortable : Sortable values) (isLeft : left ∈ values)
    (isRight : right ∈ values) (before : left.less? right = some true) :
    countBelow values left < countBelow values right := by
  apply Value.countBelow_lt isLeft (less?_self left) _ before
  intro other isOther below
  exact sortable.trans isOther isLeft isRight below before

theorem countBelow_eq (sortable : Sortable values) (isLeft : left ∈ values)
    (same : left.same right = true) : countBelow values left = countBelow values right := by
  apply List.countP_congr
  intro other isOther
  rw [less?_congr_right (sortable.isHashable isOther) (sortable.isHashable isLeft) same]

theorem less_eq (sortable : Sortable values) (isLeft : left ∈ values) (isRight : right ∈ values) :
    (left.less? right == some true) =
      decide (countBelow values left < countBelow values right) := by
  rw [Bool.eq_iff_iff, beq_iff_eq, decide_eq_true_iff]
  refine ⟨sortable.countBelow_lt isLeft isRight, ?_⟩
  intro fewer
  rcases sortable.less?_or_same isLeft isRight with before | same | after
  · exact before
  · exact absurd (sortable.countBelow_eq isLeft same) fewer.ne
  · exact absurd fewer (sortable.countBelow_lt isRight isLeft after).not_gt

theorem same_of_countBelow (sortable : Sortable values) (isLeft : left ∈ values)
    (isRight : right ∈ values) (equal : countBelow values left = countBelow values right) :
    left.same right = true := by
  rcases sortable.less?_or_same isLeft isRight with before | same | after
  · exact absurd equal (sortable.countBelow_lt isLeft isRight before).ne
  · exact same
  · exact absurd equal (sortable.countBelow_lt isRight isLeft after).ne'

end Sortable

/-! ## The arrangement by value -/

variable {α : Type} [LinearOrder α] {value : α → Value} {items : List α} {left right : α}

/-- Which of two items comes first: the one of lower value, and of items with equal values the lower
one. -/
def Ascends (value : α → Value) (left right : α) : Prop :=
  (value left).less? (value right) = some true ∨
    (value left).same (value right) = true ∧ left < right

theorem Sortable.not_ascends (sortable : Sortable (items.map value)) (isLeft : left ∈ items)
    (isRight : right ∈ items) (ascends : Ascends value left right) :
    ¬ Ascends value right left := by
  have leftValue := List.mem_map_of_mem (f := value) isLeft
  have rightValue := List.mem_map_of_mem (f := value) isRight
  have different {first second : Value} (isFirst : first ∈ items.map value)
      (isSecond : second ∈ items.map value) (before : first.less? second = some true)
      (same : second.same first = true) : False :=
    absurd (sortable.countBelow_eq isSecond same)
      (sortable.countBelow_lt isFirst isSecond before).ne'
  rintro (after | ⟨alsoSame, after⟩)
  · rcases ascends with before | ⟨same, _⟩
    · exact less?_self _ (sortable.trans leftValue rightValue leftValue before after)
    · exact different rightValue leftValue after same
  · rcases ascends with before | ⟨_, before⟩
    · exact different leftValue rightValue before alsoSame
    · exact before.asymm after

/-- There is only one arrangement in which value and item ascend together. -/
theorem Sortable.eq_of_perm (sortable : Sortable (items.map value)) {sorted others : List α}
    (perm : sorted.Perm items) (otherPerm : others.Perm items)
    (ascending : sorted.Pairwise (Ascends value))
    (otherAscending : others.Pairwise (Ascends value)) : others = sorted := by
  apply (otherPerm.trans perm.symm).eq_of_pairwise _ otherAscending ascending
  intro left right isLeft isRight before after
  exact absurd after
    (sortable.not_ascends (otherPerm.mem_iff.mp isLeft) (perm.mem_iff.mp isRight) before)

/-- Sorting finds the arrangement. -/
theorem Sortable.exists_sorted (sortable : Sortable (items.map value))
    (ascending : items.Pairwise (· < ·)) :
    ∃ sorted, sortAscending less? same value items = .ok sorted ∧
      sorted.Pairwise (Ascends value) := by
  have isValue {item : α} (isItem : item ∈ items) := List.mem_map_of_mem (f := value) isItem
  have comparable : items.Pairwise fun left right =>
      ((value left).less? (value right)).isSome = true :=
    List.pairwise_of_forall_mem_list fun left isLeft right isRight =>
      sortable.comparable (isValue isLeft) (isValue isRight)
  have isOrder : items.Pairwise fun left right =>
      ((value left).less? (value right) == some true ||
        (value right).less? (value left) == some true ||
          (value left).same (value right)) = true :=
    List.pairwise_of_forall_mem_list fun left isLeft right isRight => by
      have decided := sortable.less?_or_same (isValue isLeft) (isValue isRight)
      simp only [Bool.or_eq_true, beq_iff_eq]
      tauto
  rw [sortAscending, if_pos comparable]
  refine ⟨_, rfl, ?_⟩
  rw [sortStably, if_pos (decide_eq_true isOrder)]
  have sorted := pairwise_mergeSort_of_ascending
    (fun item => countBelow (items.map value) (value item))
    (fun _ isLeft _ isRight => sortable.less_eq (isValue isLeft) (isValue isRight)) ascending
  apply sorted.imp_of_mem
  intro left right isLeft isRight ordered
  rw [List.mem_mergeSort] at isLeft isRight
  apply ordered.imp
  · intro fewer
    simpa [fewer] using sortable.less_eq (isValue isLeft) (isValue isRight)
  · rintro ⟨equal, before⟩
    exact ⟨sortable.same_of_countBelow (isValue isLeft) (isValue isRight) equal, before⟩

end Value

/-! ## Calls of a curve key -/

namespace CurveOrder

variable {curveKey : CurveKey} {points : List Point} {start : Nat}

/-- The values are those that a curve key gives for the points, after some number of calls. -/
def Valued (curveKey : CurveKey) (start : Nat) (points : List Point) (values : List Value) : Prop :=
  List.Forall₂ (fun entry value => curveKey entry.2 entry.1 = .ok value)
    (points.zipIdx start) values

/-- There is one call for each point, in the order of the points. -/
theorem mapM_callKey {values : List Value} (valued : Valued curveKey start points values) :
    points.mapM (callKey curveKey) start = (.ok values, start + points.length) := by
  induction points generalizing start values with
  | nil =>
      cases valued
      rfl
  | cons point points ih =>
      rcases valued with _ | ⟨first, others⟩
      have called : callKey curveKey point start = (.ok _, start + 1) :=
        congrArg (·, start + 1) first
      rw [List.mapM_cons, Computation.bind_of_ok called, Computation.bind_of_ok (ih others)]
      simp [Computation.pure_apply, Nat.add_comm, Nat.add_left_comm]

/-- A call that fails is the last one. -/
theorem mapM_callKey_of_error {before after : List Point} {values : List Value} {point : Point}
    {fault : Fault} (valued : Valued curveKey start before values)
    (failure : curveKey (start + before.length) point = .error fault) :
    (before ++ point :: after).mapM (callKey curveKey) start =
      (.error fault, start + before.length + 1) := by
  induction before generalizing start values with
  | nil =>
      have called : callKey curveKey point start = (.error fault, start + 1) :=
        congrArg (·, start + 1) failure
      rw [List.nil_append, List.mapM_cons, Computation.bind_of_error called]
      rfl
  | cons first before ih =>
      rcases valued with _ | ⟨found, others⟩
      have called : callKey curveKey first start = (.ok _, start + 1) :=
        congrArg (·, start + 1) found
      have calls : start + (first :: before).length = start + 1 + before.length := by
        simp only [List.length_cons]
        omega
      rw [calls] at failure ⊢
      rw [List.cons_append, List.mapM_cons, Computation.bind_of_ok called,
        Computation.bind_of_error (ih others failure)]

end CurveOrder

/-! ## Curves over the rows of a dataset -/

namespace Dataset

def keyIn (dataset : Dataset) (row : Fin dataset.size) : Key :=
  dataset.keys.keys.get ⟨row.val, row.isLt⟩

def pointIn (dataset : Dataset) (row : Fin dataset.size) : Point :=
  dataset.points.get ⟨row.val, row.isLt.trans_eq dataset.aligned.symm⟩

theorem zip_ofFn (dataset : Dataset) (value : Fin dataset.size → Value) :
    dataset.keys.keys.zip (List.ofFn value) =
      (List.finRange dataset.size).map fun row => (dataset.keyIn row, value row) := by
  have length : dataset.keys.keys.length = dataset.size := rfl
  apply List.ext_getElem <;> simp [length, keyIn]

theorem map_keyIn_finRange (dataset : Dataset) :
    (List.finRange dataset.size).map dataset.keyIn = dataset.keys.keys := by
  have length : dataset.keys.keys.length = dataset.size := rfl
  apply List.ext_getElem <;> simp [length, keyIn]

end Dataset

namespace CurveOrder

variable {dataset : Dataset} {curveKey : CurveKey} {start : Nat} {curve : CurveOrder}

theorem valued_ofFn {value : Fin dataset.size → Value}
    (each : ∀ row : Fin dataset.size,
      curveKey (start + row) (dataset.pointIn row) = .ok (value row)) :
    Valued curveKey start dataset.points (List.ofFn value) := by
  have aligned : dataset.points.length = dataset.size := dataset.aligned
  apply List.forall₂_iff_get.mpr ⟨by simp [aligned], ?_⟩
  intro place inside otherInside
  have found := each ⟨place, by simpa [aligned] using inside⟩
  simpa [Dataset.pointIn] using found

theorem build_of_nonempty (nonempty : dataset.size ≠ 0) (curveKey : CurveKey) (name : Value) :
    build dataset curveKey name =
      dataset.points.mapM (callKey curveKey) >>= fun values =>
        Counting.pure (sortAscending Value.less? Value.same Prod.snd
          (dataset.keys.keys.zip values)) >>= fun sorted =>
            Counting.pure (ofValues (sorted.map fun entry => entry.1.value) name) := by
  rw [build, if_neg nonempty]

/-- An arrangement of all rows in which their values and they themselves ascend. -/
structure Arranges {count : Nat} (value : Fin count → Value) (rows : List (Fin count)) : Prop where
  perm : rows.Perm (List.finRange count)
  ascending : rows.Pairwise (Value.Ascends value)

theorem Arranges.unique {count : Nat} {value : Fin count → Value} {rows others : List (Fin count)}
    (sortable : Value.Sortable (List.ofFn value)) (arranges : Arranges value rows)
    (alsoArranges : Arranges value others) : others = rows := by
  rw [List.ofFn_eq_map] at sortable
  exact sortable.eq_of_perm arranges.perm alsoArranges.perm arranges.ascending
    alsoArranges.ascending

/-- A curve visits all keys of a dataset by the given rows, and says at which position each is. -/
structure Visits (curve : CurveOrder) (dataset : Dataset) (rows : List (Fin dataset.size)) :
    Prop where
  keys : curve.order.keys = rows.map dataset.keyIn
  perm : curve.order.keys.Perm dataset.keys.keys
  position : ∀ (place : Nat) key, curve.keyAt place = .ok key → dataset.contains key = true →
    curve.position key = .ok place
  keyAt : ∀ key, dataset.contains key = true → ∃ (place : Nat) (holder : Key),
    curve.position key = .ok place ∧ curve.keyAt place = .ok holder ∧ (holder == key) = true

theorem visits_of_perm {rows : List (Fin dataset.size)}
    (perm : rows.Perm (List.finRange dataset.size))
    (keys : curve.order.keys = rows.map dataset.keyIn) : curve.Visits dataset rows := by
  have keysPerm : curve.order.keys.Perm dataset.keys.keys := by
    rw [keys, ← dataset.map_keyIn_finRange]
    exact perm.map dataset.keyIn
  refine ⟨keys, keysPerm, ?_, ?_⟩
  · intro place key isKey indexed
    have found := Sequence.getElem?_of_itemAt isKey
    exact KeySequence.position_eq_ok_iff.mpr ⟨key, found, KeySequence.beq_self_of_contains indexed⟩
  · intro key indexed
    have visited : curve.order.contains key = true := by
      rw [KeySequence.contains, keysPerm.any_eq]
      exact indexed
    rcases KeySequence.exists_position_iff.mpr visited with ⟨place, found⟩
    rcases KeySequence.position_eq_ok_iff.mp found with ⟨holder, isHolder, same⟩
    exact ⟨place, holder, found, Sequence.itemAt_of_getElem? isHolder, same⟩

theorem exists_arranged_build {value : Fin dataset.size → Value} (nonempty : dataset.size ≠ 0)
    (each : ∀ row : Fin dataset.size,
      curveKey (start + row) (dataset.pointIn row) = .ok (value row))
    (sortable : Value.Sortable (List.ofFn value)) (name : Value) :
    ∃ curve rows, build dataset curveKey name start = (.ok curve, start + dataset.size) ∧
      curve.name = name ∧ Arranges value rows ∧ curve.order.keys = rows.map dataset.keyIn := by
  have aligned : dataset.points.length = dataset.size := dataset.aligned
  have ordered : (List.finRange dataset.size).Pairwise (· < ·) := List.pairwise_lt_finRange _
  rw [List.ofFn_eq_map] at sortable
  rcases sortable.exists_sorted ordered with ⟨rows, sorted, ascending⟩
  have arranged : sortAscending Value.less? Value.same Prod.snd
      (dataset.keys.keys.zip (List.ofFn value)) =
        .ok (rows.map fun row => (dataset.keyIn row, value row)) := by
    rw [dataset.zip_ofFn, sortAscending_map, sorted]
    rfl
  refine ⟨⟨name, _, pairwise_of_sorted arranged⟩, rows, ?_, rfl,
    ⟨sortAscending_perm sorted, ascending⟩, by simp⟩
  rw [build_of_nonempty nonempty, Computation.bind_of_ok (mapM_callKey (valued_ofFn each)),
    arranged, aligned]
  exact congrArg (·, start + dataset.size) (ofValues_sorted arranged name)

/-- A call that fails is the last one, and its fault is that of the curve. -/
theorem build_of_error {row : Fin dataset.size} {fault : Fault}
    (each : ∀ earlier < row, ∃ value,
      curveKey (start + earlier) (dataset.pointIn earlier) = .ok value)
    (failure : curveKey (start + row) (dataset.pointIn row) = .error fault) (name : Value) :
    build dataset curveKey name start = (.error fault, start + row + 1) := by
  have nonempty : dataset.size ≠ 0 := Nat.ne_zero_of_lt row.isLt
  have inside : row.val < dataset.points.length := row.isLt.trans_eq dataset.aligned.symm
  have split : dataset.points =
      dataset.points.take row ++ dataset.pointIn row :: dataset.points.drop (row + 1) := by
    simp [Dataset.pointIn]
  have before : (dataset.points.take row).length = row := by simp [inside.le]
  have valued : ∃ values, Valued curveKey start (dataset.points.take row) values := by
    apply exists_forall₂
    rintro ⟨point, calls⟩ isEarlier
    rw [List.mk_mem_zipIdx_iff_le_and_getElem?_sub, List.getElem?_take] at isEarlier
    rcases isEarlier with ⟨started, isPoint⟩
    split at isPoint
    · next earlier =>
        rcases List.getElem?_eq_some_iff.mp isPoint with ⟨_, rfl⟩
        rcases each ⟨calls - start, earlier.trans row.isLt⟩ earlier with ⟨value, found⟩
        exact ⟨value, by simpa [Dataset.pointIn, Nat.add_sub_cancel' started] using found⟩
    · cases isPoint
  rcases valued with ⟨values, valued⟩
  rw [build_of_nonempty nonempty, split]
  apply Computation.bind_of_error
  rw [mapM_callKey_of_error valued (by rw [before]; exact failure), before]

/-- A curve of sortable values is built with one call of its curve key for each row and visits the
rows in their only arrangement by value. The first call that fails, if there is one, is the last,
and its fault is all that comes of it. -/
theorem build_sorts_rows (dataset : Dataset) (curveKey : CurveKey) (name : Value) (start : Nat)
    (nonempty : dataset.size ≠ 0) :
    (∀ value : Fin dataset.size → Value,
      (∀ row : Fin dataset.size, curveKey (start + row) (dataset.pointIn row) = .ok (value row)) →
        Value.Sortable (List.ofFn value) → ∃ curve rows,
          build dataset curveKey name start = (.ok curve, start + dataset.size) ∧
          curve.name = name ∧ curve.Visits dataset rows ∧ Arranges value rows ∧
          ∀ others, Arranges value others → others = rows) ∧
    ∀ (row : Fin dataset.size) fault,
      (∀ earlier < row, ∃ value,
        curveKey (start + earlier) (dataset.pointIn earlier) = .ok value) →
        curveKey (start + row) (dataset.pointIn row) = .error fault →
          build dataset curveKey name start = (.error fault, start + row + 1) := by
  refine ⟨?_, fun row fault each failure => build_of_error each failure name⟩
  intro value each sortable
  rcases exists_arranged_build nonempty each sortable name with
    ⟨curve, rows, built, named, arranges, keys⟩
  exact ⟨curve, rows, built, named, visits_of_perm arranges.perm keys, arranges,
    fun _ alsoArranges => arranges.unique sortable alsoArranges⟩

/-! ## Three rows of which two are tied -/

def threeRows : Dataset :=
  ⟨⟨[5, 6, 7].map Key.ofInt, by decide⟩, [[0], [0], [0]], 1, rfl, by simp⟩

/-- A truth value, a double and an integer. -/
def tiedValue : Fin 3 → Value
  | 0 => .truth true
  | 1 => .number (.real 1)
  | 2 => .ofInt 0

theorem build_sorts_rows_tied :
    (∃ curve, build threeRows (CurveKey.tabulated (List.ofFn tiedValue)) .null 0 = (.ok curve, 3) ∧
      curve.order.keys = [7, 5, 6].map Key.ofInt) ∧
    build threeRows (CurveKey.tabulated [.truth true]) .null 0 = (.error .outOfRange, 2) := by
  have each : ∀ row : Fin 3, CurveKey.tabulated (List.ofFn tiedValue) (0 + row)
      (threeRows.pointIn row) = .ok (tiedValue row) := by
    simp [Fin.forall_fin_succ, CurveKey.tabulated]
  have sortable : Value.Sortable (List.ofFn tiedValue) := .numbers (by decide)
  have arranged : Arranges tiedValue [2, 0, 1] := by
    refine ⟨by decide, ?_⟩
    unfold Value.Ascends
    decide
  constructor
  · rcases (build_sorts_rows threeRows (CurveKey.tabulated (List.ofFn tiedValue)) .null 0
      (by decide)).1 tiedValue each sortable with ⟨curve, rows, built, _, visits, _, unique⟩
    refine ⟨curve, built, ?_⟩
    rw [visits.keys, ← unique _ arranged]
    rfl
  · apply (build_sorts_rows threeRows (CurveKey.tabulated [.truth true]) .null 0 (by decide)).2
      (1 : Fin 3) .outOfRange _ rfl
    intro earlier before
    have isFirst : earlier.val = 0 := Nat.lt_one_iff.mp before
    exact ⟨.truth true, by simp [isFirst, CurveKey.tabulated]⟩

end CurveOrder

end CurveNeighbors
