import CurveNeighbors.Distance
import CurveNeighbors.Neighbors.ExactSearch
import CurveNeighbors.Proofs.Computation
import CurveNeighbors.Proofs.Number.Doubles

/-!
# Distances of finite points

A long sum of doubles is nothing but additions, in whatever order they are made. So what
zero has, and each sum of two that have it, a long sum has as well: it is not negative if
no term is, and zero if all terms are. The manhattan distance of two finite points is
therefore defined and not negative, and zero for a point and itself.
-/

namespace CurveNeighbors

open Binary64

namespace Distance

/-- A property of zero that sums keep. -/
structure KeptBySums (property : Float → Prop) : Prop where
  zero : property 0
  add : ∀ {left right : Float}, property left → property right → property (left + right)

namespace KeptBySums

variable {property : Float → Prop}

theorem foldl (kept : KeptBySums property) {terms : List Float}
    (each : ∀ term ∈ terms, property term) {start : Float} (first : property start) :
    property (terms.foldl (· + ·) start) := by
  induction terms generalizing start with
  | nil => exact first
  | cons term terms ih =>
      rcases List.forall_mem_cons.mp each with ⟨next, each⟩
      exact ih each (kept.add first next)

theorem mergedLanes (kept : KeptBySums property) {lanes : List Float}
    (each : ∀ lane ∈ lanes, property lane) : property (mergedLanes lanes) := by
  unfold Distance.mergedLanes
  split
  · simp only [List.forall_mem_cons] at each
    rcases each with ⟨a, b, c, d, e, f, g, h, _⟩
    exact kept.add (kept.add (kept.add a b) (kept.add c d)) (kept.add (kept.add e f) (kept.add g h))
  · exact kept.foldl each kept.zero

theorem zipWith (kept : KeptBySums property) {left right : List Float}
    (eachLeft : ∀ term ∈ left, property term) (eachRight : ∀ term ∈ right, property term) :
    ∀ term ∈ List.zipWith (· + ·) left right, property term := by
  intro term isTerm
  rw [← List.map_uncurry_zip_eq_zipWith] at isTerm
  rcases List.mem_map.mp isTerm with ⟨⟨first, second⟩, isPair, rfl⟩
  rcases List.of_mem_zip isPair with ⟨isFirst, isSecond⟩
  exact kept.add (eachLeft first isFirst) (eachRight second isSecond)

theorem laneSum (kept : KeptBySums property) {lanes terms : List Float}
    (eachLane : ∀ lane ∈ lanes, property lane) (each : ∀ term ∈ terms, property term) :
    property (laneSum lanes terms) := by
  -- A block of eight terms leaves lanes that have the property, and the rest is added to them.
  fun_induction Distance.laneSum lanes terms with
  | case1 lanes a b c d e f g h rest ih =>
      apply ih
      · apply kept.zipWith eachLane
        intro term isTerm
        apply each
        exact List.mem_append_left rest isTerm
      · intro term isTerm
        apply each
        exact List.mem_append_right [a, b, c, d, e, f, g, h] isTerm
  | case2 lanes rest => exact kept.foldl each (kept.mergedLanes eachLane)

theorem pairwiseSum (kept : KeptBySums property) {terms : List Float}
    (each : ∀ term ∈ terms, property term) : property (pairwiseSum terms) := by
  fun_induction Distance.pairwiseSum terms with
  | case1 terms _ _ => exact kept.foldl each kept.zero
  | case2 terms _ _ =>
      apply kept.laneSum
      · intro term isTerm
        exact each term (List.mem_of_mem_take isTerm)
      · intro term isTerm
        exact each term (List.mem_of_mem_drop isTerm)
  | case3 terms _ firstIh secondIh =>
      apply kept.add
      · apply firstIh
        intro term isTerm
        exact each term (List.mem_of_mem_take isTerm)
      · apply secondIh
        intro term isTerm
        exact each term (List.mem_of_mem_drop isTerm)

end KeptBySums

theorem keptBySums_isNonnegative : KeptBySums IsNonnegative :=
  ⟨by unfold IsNonnegative; decide, IsNonnegative.add⟩

theorem keptBySums_zero : KeptBySums (· = 0) := by
  refine ⟨rfl, ?_⟩
  rintro _ _ rfl rfl
  decide

/-! ## The manhattan distance -/

variable {left right point : Point}

theorem manhattan_eq (lengths : left.length = right.length) :
    manhattan left right =
      .ok (.real (pairwiseSum ((left.zip right).map fun pair => (pair.1 - pair.2).abs))) := by
  have pairs : paired left right = .ok (left.zip right) := by
    unfold paired
    exact if_pos lengths
  rw [manhattan, pairs]
  rfl

theorem isFinite_of_mem (finite : point.isFinite = true) {coordinate : Float}
    (isCoordinate : coordinate ∈ point) : IsFinite coordinate := by
  have inside := List.all_eq_true.mp finite coordinate isCoordinate
  rw [decide_eq_true_eq] at inside
  exact inside

theorem exists_manhattan (lengths : left.length = right.length)
    (leftFinite : left.isFinite = true) (rightFinite : right.isFinite = true) :
    ∃ sum, manhattan left right = .ok (.real sum) ∧ IsNonnegative sum := by
  refine ⟨_, manhattan_eq lengths, keptBySums_isNonnegative.pairwiseSum ?_⟩
  intro term isTerm
  rcases List.mem_map.mp isTerm with ⟨⟨first, second⟩, isPair, rfl⟩
  rcases List.of_mem_zip isPair with ⟨isFirst, isSecond⟩
  apply isNonnegative_abs
  exact (isFinite_of_mem leftFinite isFirst).isUndefined_sub (isFinite_of_mem rightFinite isSecond)

theorem manhattan_self (finite : point.isFinite = true) :
    manhattan point point = .ok (.real 0) := by
  have none : pairwiseSum ((point.zip point).map fun pair => (pair.1 - pair.2).abs) = 0 := by
    apply keptBySums_zero.pairwiseSum
    intro term isTerm
    rcases List.mem_map.mp isTerm with ⟨⟨first, second⟩, isPair, rfl⟩
    rw [List.zip_eq_zipWith, List.zipWith_self] at isPair
    rcases List.mem_map.mp isPair with ⟨coordinate, isCoordinate, same⟩
    cases same
    exact (isFinite_of_mem finite isCoordinate).abs_sub_self
  rw [manhattan_eq rfl, none]

theorem outcome_evaluate_of_real {distance : Distance} {value : Float}
    (found : distance left right = .ok (.real value)) :
    (distance.evaluate left right).outcome = .ok value := by
  simp only [Counting.outcome, evaluate, Computation.bind_apply, Counting.once, found]
  rfl

end Distance

end CurveNeighbors
