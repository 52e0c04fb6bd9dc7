import CurveNeighbors.Proofs.Neighbors.Comparison

/-!
# Relative errors

The relative error compares the distances with which two lists of neighbours end, counted
by the number of neighbours that were asked for. For a number from one on it is what it is
meant to be: undefined if a list is too short or the true distance is not positive, and
otherwise the excess over the true distance, relative to it.

A number below one has no last neighbour, yet it is not refused like everywhere else. No
list is shorter than such a number, and what is compared then are neighbours counted from
the end of each list. That gives an error of other distances, or none at all where a list
has too few of them.
-/

namespace CurveNeighbors

open Binary64

/-- What the relative error for a number of neighbours is meant to be. -/
inductive MeasuresError (approximate nearest : List Neighbor) (count : Int) :
    Outcome (Option Float) → Prop
  | refused {fault : Fault} (nonpositive : count ≤ 0) (isParameter : fault.kind = .parameter) :
      MeasuresError approximate nearest count (.error fault)
  | short (few : (approximate.length : Int) < count ∨ (nearest.length : Int) < count) :
      MeasuresError approximate nearest count (.ok none)
  | touching {near : Neighbor} {distance : ℚ} (positive : 0 < count)
      (isNear : nearest[count.toNat - 1]? = some near)
      (isDistance : exact near.distance = .finite distance) (notPositive : distance ≤ 0) :
      MeasuresError approximate nearest count (.ok none)
  | compared {far near : Neighbor} {distance : ℚ} (positive : 0 < count)
      (isFar : approximate[count.toNat - 1]? = some far)
      (isNear : nearest[count.toNat - 1]? = some near)
      (isDistance : exact near.distance = .finite distance) (isPositive : 0 < distance) :
      MeasuresError approximate nearest count
        (.ok (some ((far.distance - near.distance) / near.distance)))

/-- The error of the neighbours that are a number of places before the last. -/
def errorFromEnd (approximate nearest : List Neighbor) (places : Nat) : Outcome (Option Float) :=
  match nearest.reverse[places]? with
  | none => .error .outOfRange
  | some near =>
      if (Number.real near.distance).atMost (.whole 0) then .ok none
      else
        match approximate.reverse[places]? with
        | none => .error .outOfRange
        | some far => .ok (some ((far.distance - near.distance) / near.distance))

theorem signedValue_nonpos_of_atMost {number : Float} (finite : IsFinite number)
    (notPositive : (Number.real number).atMost (.whole 0) = true) : signedValue number ≤ 0 := by
  rw [Number.atMost, Number.less, Bool.or_eq_true, Number.exact, Number.exact,
    finite.exact_eq] at notPositive
  rcases notPositive with less | same
  · exact (of_decide_eq_true less).le
  · have equal : ExactValue.finite (signedValue number) = .finite 0 := by
      simpa [ExactValue.same, ExactValue.ofInt] using same
    exact (ExactValue.finite.inj equal).le

section

variable {approximate nearest : List Neighbor} {count : Int}

theorem measuresError_of_positive (positive : 0 < count)
    (finite : ∀ neighbor ∈ nearest, IsFinite neighbor.distance) :
    MeasuresError approximate nearest count
      (relativeDistanceError (approximate.map Index.listed) (nearest.map Index.listed)
        (.ofInt count)) := by
  rw [relativeDistanceError_eq]
  by_cases few : (approximate.length : Int) < count ∨ (nearest.length : Int) < count
  · rw [if_pos few]
    exact .short few
  · have isFar := List.getElem?_eq_getElem (show count.toNat - 1 < approximate.length by omega)
    have isNear := List.getElem?_eq_getElem (show count.toNat - 1 < nearest.length by omega)
    have isFinite := finite _ (List.mem_of_getElem? isNear)
    have last : count - 1 = (count.toNat - 1 : Nat) := by omega
    rw [if_neg few, last, Sequence.itemAt_of_getElem? isNear, Outcome.ok_bind]
    cases none : (Number.real nearest[count.toNat - 1].distance).atMost (.whole 0) with
    | true =>
        exact .touching positive isNear isFinite.exact_eq
          (signedValue_nonpos_of_atMost isFinite none)
    | false =>
        rw [Sequence.itemAt_of_getElem? isFar]
        exact .compared positive isFar isNear isFinite.exact_eq
          (signedValue_pos_of_atMost isFinite none)

/-- For a number below one, neighbours are counted from the end. -/
theorem relativeDistanceError_of_nonpositive (nonpositive : count ≤ 0) :
    relativeDistanceError (approximate.map Index.listed) (nearest.map Index.listed)
      (.ofInt count) = errorFromEnd approximate nearest (-count).toNat := by
  have place : count - 1 = -1 - ((-count).toNat : Int) := by omega
  rw [relativeDistanceError_eq, if_neg (by omega), place, Sequence.itemAt_from_end,
    Sequence.itemAt_from_end, errorFromEnd]
  cases nearest.reverse[(-count).toNat]? with
  | none => rfl
  | some near =>
      dsimp only
      rw [Outcome.ok_bind]
      split
      · rfl
      · cases approximate.reverse[(-count).toNat]? <;> rfl

theorem fault_of_errorFromEnd {places : Nat} {fault : Fault}
    (failure : errorFromEnd approximate nearest places = .error fault) : fault = .outOfRange := by
  unfold errorFromEnd at failure
  split at failure
  · cases failure
    rfl
  · split at failure
    · cases failure
    · split at failure
      · cases failure
        rfl
      · cases failure

/-- A number below one is meant to be refused. -/
theorem MeasuresError.exists_refused {outcome : Outcome (Option Float)}
    (measures : MeasuresError approximate nearest count outcome) (nonpositive : count ≤ 0) :
    ∃ fault, outcome = .error fault ∧ fault.kind = .parameter := by
  cases measures with
  | refused _ isParameter => exact ⟨_, rfl, isParameter⟩
  | short few => omega
  | touching positive => omega
  | compared positive => omega

theorem not_measuresError_of_nonpositive (nonpositive : count ≤ 0) :
    ¬ MeasuresError approximate nearest count
      (errorFromEnd approximate nearest (-count).toNat) := by
  intro measures
  rcases measures.exists_refused nonpositive with ⟨fault, refused, isParameter⟩
  cases fault_of_errorFromEnd refused
  cases isParameter

/-- The relative error is what it is meant to be exactly for a number of neighbours from one on.
For any other it is that of neighbours counted from the end. -/
theorem relative_error_measures_iff
    (finite : ∀ neighbor ∈ approximate ++ nearest, IsFinite neighbor.distance) :
    (MeasuresError approximate nearest count
      (relativeDistanceError (approximate.map Index.listed) (nearest.map Index.listed)
        (.ofInt count)) ↔ 0 < count) ∧
    (count ≤ 0 →
      relativeDistanceError (approximate.map Index.listed) (nearest.map Index.listed)
        (.ofInt count) = errorFromEnd approximate nearest (-count).toNat) := by
  refine ⟨⟨?_, ?_⟩, relativeDistanceError_of_nonpositive⟩
  · intro measures
    by_contra notPositive
    have nonpositive : count ≤ 0 := not_lt.mp notPositive
    rw [relativeDistanceError_of_nonpositive nonpositive] at measures
    exact not_measuresError_of_nonpositive nonpositive measures
  · intro positive
    apply measuresError_of_positive positive
    intro neighbor isNear
    exact finite neighbor (List.mem_append_right _ isNear)

end

theorem relative_error_measures_two :
    (∀ neighbor ∈ [Neighbor.mk (.text "x") 0, ⟨.text "y", 3⟩] ++
        [⟨.text "x", 0⟩, ⟨.text "z", 2⟩], IsFinite neighbor.distance) ∧
      MeasuresError [⟨.text "x", 0⟩, ⟨.text "y", 3⟩] [⟨.text "x", 0⟩, ⟨.text "z", 2⟩] 2
        (relativeDistanceError ([⟨.text "x", 0⟩, ⟨.text "y", 3⟩].map Index.listed)
          ([⟨.text "x", 0⟩, ⟨.text "z", 2⟩].map Index.listed) (.ofInt 2)) ∧
      relativeDistanceError ([⟨.text "x", 0⟩, ⟨.text "y", 3⟩].map Index.listed)
        ([⟨.text "x", 0⟩, ⟨.text "z", 2⟩].map Index.listed) (.ofInt (-1)) = .ok none := by
  have finite : ∀ neighbor ∈ [Neighbor.mk (.text "x") 0, ⟨.text "y", 3⟩] ++
      [⟨.text "x", 0⟩, ⟨.text "z", 2⟩], IsFinite neighbor.distance := by
    simp only [List.cons_append, List.nil_append, List.mem_cons, List.not_mem_nil, or_false]
    rintro neighbor (rfl | rfl | rfl | rfl)
    all_goals
      unfold IsFinite
      decide
  have fromFirst : errorFromEnd [⟨.text "x", 0⟩, ⟨.text "y", 3⟩]
      [⟨.text "x", 0⟩, ⟨.text "z", 2⟩] 1 = .ok none := by
    simp only [errorFromEnd, List.reverse_cons, List.reverse_nil, List.nil_append,
      List.cons_append, List.getElem?_cons_succ, List.getElem?_cons_zero]
    rw [if_pos (by decide +kernel)]
  exact ⟨finite, (relative_error_measures_iff finite).1.mpr (by decide),
    ((relative_error_measures_iff finite).2 (by decide)).trans fromFirst⟩

/-- No neighbours at all still have an error, which is that of the last one of each list. Of empty
lists there is none to be found. -/
theorem relative_error_of_no_neighbors :
    relativeDistanceError [Index.listed ⟨.text "x", 1⟩] [Index.listed ⟨.text "y", 2⟩] (.ofInt 0) =
        .ok (some (-0.5)) ∧
      ¬ MeasuresError [⟨.text "x", 1⟩] [⟨.text "y", 2⟩] 0 (.ok (some (-0.5))) ∧
      relativeDistanceError [] [] (.ofInt 0) = .error .outOfRange ∧
      ¬ MeasuresError [] [] 0 (.error .outOfRange) := by
  refine ⟨?_, ?_, rfl, ?_⟩
  · exact congrArg (Except.ok ∘ some) (Float.toBits_inj.mp (by decide +kernel))
  · intro measures
    rcases measures.exists_refused le_rfl with ⟨_, refused, _⟩
    cases refused
  · intro measures
    rcases measures.exists_refused le_rfl with ⟨_, refused, isParameter⟩
    cases refused
    cases isParameter

end CurveNeighbors
