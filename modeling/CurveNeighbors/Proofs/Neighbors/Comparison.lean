import CurveNeighbors.Index.Session
import CurveNeighbors.Proofs.Neighbors.Parts
import CurveNeighbors.Proofs.Number.Values

/-!
# Comparing answers

Of two answers from candidates, of which the second has all that the first has, the second
is no worse: it has no fewer neighbours, and the one at each place is no farther away than
the first has there. So the relative error of an answer, which compares its last distance
with that of the true neighbours, is not negative. That is so in exact arithmetic and is
not undone by rounding: a difference and a quotient that are not negative are not rounded
to negative numbers.
-/

namespace CurveNeighbors

open Binary64

/-! ## Neighbours at the same place -/

/-- An answer has no fewer neighbours than another, and none is farther away than the one at the
same place of the other. -/
def NoFarther (better answer : List Neighbor) : Prop :=
  answer.length ≤ better.length ∧
    ∀ (place : Nat) (far : Neighbor), answer[place]? = some far →
      ∃ near, better[place]? = some near ∧
        (Number.real near.distance).atMost (.real far.distance) = true

section

variable {distance : Distance} {dataset : Dataset} {query : Point} {capacity : Nat}
  {candidates others : KeySequence} {whole part kept best : List ScoredCandidate}

theorem Nearest.noFarther (closest : Nearest capacity part best)
    (nearest : Nearest capacity whole kept)
    (partScores : ScoresOf distance dataset query candidates part)
    (wholeScores : ScoresOf distance dataset query others whole)
    (within : ∀ key ∈ candidates.keys, others.contains key = true) :
    NoFarther (kept.map ScoredCandidate.neighbor) (best.map ScoredCandidate.neighbor) := by
  constructor
  · have sizes := KeySequence.size_le_of_within within
    simp only [List.length_map, closest.length_eq, nearest.length_eq, partScores.length_eq,
      wholeScores.length_eq]
    omega
  · intro place far isFar
    simp only [List.getElem?_map, Option.map_eq_some_iff] at isFar
    rcases isFar with ⟨farther, isFarther, rfl⟩
    rcases closest.exists_rank_le nearest partScores wholeScores within isFarther with
      ⟨nearer, isNearer, below⟩
    refine ⟨nearer.neighbor, by simp [isNearer], ?_⟩
    apply atMost_of_place_le
    · exact wholeScores.defined nearer (nearest.within nearer (List.mem_of_getElem? isNearer))
    · exact partScores.defined farther (closest.within farther (List.mem_of_getElem? isFarther))
    · exact ScoredCandidate.place_le_of_rank_le below

end

/-! ## The relative error -/

theorem listedDistance_eq (neighbors : List Neighbor) (place : Int) :
    listedDistance (neighbors.map Index.listed) place =
      (Sequence.itemAt neighbors place).map fun neighbor => .real neighbor.distance := by
  rw [listedDistance, Sequence.itemAt_map]
  cases Sequence.itemAt neighbors place <;> rfl

/-- The last distances are looked at once both lists are long enough, the true one first. -/
theorem relativeDistanceError_eq (approximate exact : List Neighbor) (count : Int) :
    relativeDistanceError (approximate.map Index.listed) (exact.map Index.listed) (.ofInt count) =
      if (approximate.length : Int) < count ∨ (exact.length : Int) < count then .ok none
      else do
        let near ← Sequence.itemAt exact (count - 1)
        if (Number.real near.distance).atMost (.whole 0) then return none
        let far ← Sequence.itemAt approximate (count - 1)
        return some ((far.distance - near.distance) / near.distance) := by
  have known : (Value.ofInt count).toNumber = .ok (.whole count) := rfl
  rw [relativeDistanceError, known, Outcome.ok_bind]
  simp only [List.length_map, Number.less_whole]
  by_cases short : (approximate.length : Int) < count ∨ (exact.length : Int) < count
  · rw [if_pos (by simpa using short), if_pos short]
    rfl
  · rw [if_neg (by simpa using short), if_neg short, lastPlace, Outcome.ok_bind, listedDistance_eq,
      listedDistance_eq]
    cases Sequence.itemAt exact (count - 1) with
    | error fault => rfl
    | ok near =>
        rw [Outcome.ok_bind, Except.map, Outcome.ok_bind]
        cases (Number.real near.distance).atMost (.whole 0) with
        | true => rfl
        | false => cases Sequence.itemAt approximate (count - 1) <;> rfl

/-- The relative error is of the last distances, unless there are too few or the true one is not
positive. -/
theorem relativeDistanceError_cases (approximate exact : List Neighbor) {count : Nat}
    (positive : 0 < count) :
    relativeDistanceError (approximate.map Index.listed) (exact.map Index.listed) (.ofInt count) =
        .ok none ∨
      ∃ far near, approximate[count - 1]? = some far ∧ exact[count - 1]? = some near ∧
        (Number.real near.distance).atMost (.whole 0) = false ∧
        relativeDistanceError (approximate.map Index.listed) (exact.map Index.listed)
          (.ofInt count) = .ok (some ((far.distance - near.distance) / near.distance)) := by
  rw [relativeDistanceError_eq]
  by_cases short : (approximate.length : Int) < count ∨ (exact.length : Int) < count
  · exact .inl (if_pos short)
  · have isFar := List.getElem?_eq_getElem (show count - 1 < approximate.length by omega)
    have isNear := List.getElem?_eq_getElem (show count - 1 < exact.length by omega)
    have last : (count - 1 : Int) = (count - 1 : Nat) := by omega
    rw [if_neg short, last, Sequence.itemAt_of_getElem? isNear, Outcome.ok_bind]
    cases none : (Number.real exact[count - 1].distance).atMost (.whole 0) with
    | true => exact .inl rfl
    | false =>
        right
        refine ⟨_, _, isFar, isNear, none, ?_⟩
        rw [Sequence.itemAt_of_getElem? isFar]
        rfl

/-- The relative error of an answer is undefined, or negative neither as it is rounded nor in exact
arithmetic. -/
def HasNonnegativeError (answer nearest : List Neighbor) (count : Nat) : Prop :=
  relativeDistanceError (answer.map Index.listed) (nearest.map Index.listed) (.ofInt count) =
      .ok none ∨
    ∃ far near error, answer[count - 1]? = some far ∧ nearest[count - 1]? = some near ∧
      relativeDistanceError (answer.map Index.listed) (nearest.map Index.listed)
        (.ofInt count) = .ok (some error) ∧ IsNonnegative error ∧
      ∃ x y : ℚ, exact far.distance = .finite x ∧ exact near.distance = .finite y ∧ 0 < y ∧
        0 ≤ (x - y) / y

theorem signedValue_pos_of_atMost {number : Float} (finite : IsFinite number)
    (positive : (Number.real number).atMost (.whole 0) = false) : 0 < signedValue number := by
  rw [Number.atMost, Number.less, Bool.or_eq_false_iff, Number.exact, Number.exact,
    finite.exact_eq] at positive
  rcases positive with ⟨notLess, notSame⟩
  have atLeast : ¬ signedValue number < 0 := of_decide_eq_false notLess
  apply lt_of_le_of_ne (not_lt.mp atLeast)
  intro zero
  rw [← zero] at notSame
  cases notSame

section

variable {distance : Distance} {dataset : Dataset} {query : Point} {capacity : Nat}
  {candidates others : KeySequence} {whole part kept best : List ScoredCandidate}

/-- The nearest of more candidates leave no answer with a negative error. -/
theorem Nearest.hasNonnegativeError (closest : Nearest capacity part best)
    (nearest : Nearest capacity whole kept)
    (partScores : ScoresOf distance dataset query candidates part)
    (wholeScores : ScoresOf distance dataset query others whole)
    (within : ∀ key ∈ candidates.keys, others.contains key = true)
    (finite : ∀ candidate ∈ whole, IsFinite candidate.distance) (positive : 0 < capacity) :
    HasNonnegativeError (best.map ScoredCandidate.neighbor) (kept.map ScoredCandidate.neighbor)
      capacity := by
  rcases relativeDistanceError_cases (best.map ScoredCandidate.neighbor)
    (kept.map ScoredCandidate.neighbor) positive with
    none | ⟨far, near, isFar, isNear, notZero, isError⟩
  · exact Or.inl none
  · right
    refine ⟨far, near, _, isFar, isNear, isError, ?_⟩
    simp only [List.getElem?_map, Option.map_eq_some_iff] at isFar isNear
    rcases isFar with ⟨farther, isFarther, rfl⟩
    rcases isNear with ⟨nearer, isNearer, rfl⟩
    rcases closest.exists_rank_le nearest partScores wholeScores within isFarther with
      ⟨_, isSame, below⟩
    cases isNearer.symm.trans isSame
    have ordered := ScoredCandidate.place_le_of_rank_le below
    have nearFinite := finite nearer (nearest.within nearer (List.mem_of_getElem? isNearer))
    have isPart := closest.within farther (List.mem_of_getElem? isFarther)
    rcases List.mem_map.mp (partScores.rank_mem_of_within wholeScores within farther isPart) with
      ⟨twin, isTwin, sameRank⟩
    have sameDistance := (IsScored.eq_of_row_eq (wholeScores.isScored twin isTwin)
      (partScores.isScored farther isPart) (ScoredCandidate.row_eq_of_rank_eq sameRank)).1
    have farFinite : IsFinite farther.distance := by
      have twinFinite := finite twin isTwin
      rwa [sameDistance] at twinFinite
    have nearPositive := signedValue_pos_of_atMost nearFinite notZero
    refine ⟨farFinite.isNonnegative_excess nearFinite nearPositive ordered, _, _,
      farFinite.exact_eq, nearFinite.exact_eq, nearPositive, ?_⟩
    exact div_nonneg (sub_nonneg.mpr (signedValue_le ordered)) nearPositive.le

end

end CurveNeighbors
