import CurveNeighbors.CurveOrder.Basic
import CurveNeighbors.Proofs.KeySequence

/-!
# Windows and the keys in them

A window around a position of a curve lies on the curve, contains the position, and is
as wide as was asked for or as the curve allows. The keys in it are those whose
positions lie in it. Since no key is on a curve twice, they are as many as the window
has positions.
-/

namespace CurveNeighbors

namespace CandidateWindow

variable {length position halfWidth : Int}

theorem candidateWindow_eq_ok (first : 0 ≤ position) (last : position < length)
    (nonnegative : 0 ≤ halfWidth) :
    candidateWindow length position halfWidth = .ok (around length position halfWidth) := by
  unfold candidateWindow
  rw [if_neg (by omega), if_neg (by omega), if_neg (by omega)]

/-- A window lies on the curve around its position, and is as wide as the curve allows. -/
theorem around_bounds (first : 0 ≤ position) (last : position < length)
    (nonnegative : 0 ≤ halfWidth) :
    0 ≤ (around length position halfWidth).low ∧
      (around length position halfWidth).low ≤ position ∧
      position ≤ (around length position halfWidth).high ∧
      (around length position halfWidth).high < length ∧
      (around length position halfWidth).high - (around length position halfWidth).low + 1 =
        min length (2 * halfWidth + 1) := by
  unfold around
  dsimp only
  split
  · refine ⟨?_, ?_, ?_, ?_, ?_⟩ <;> dsimp only <;> omega
  · split
    · refine ⟨?_, ?_, ?_, ?_, ?_⟩ <;> dsimp only <;> omega
    · split
      · refine ⟨?_, ?_, ?_, ?_, ?_⟩ <;> dsimp only <;> omega
      · refine ⟨?_, ?_, ?_, ?_, ?_⟩ <;> dsimp only <;> omega

/-- A wider window around the same position contains a narrower one, also where one of the two or
both are shifted inwards. -/
theorem around_mono (length position : Int) {wider : Int} (ordered : halfWidth ≤ wider) :
    (around length position wider).low ≤ (around length position halfWidth).low ∧
      (around length position halfWidth).high ≤ (around length position wider).high := by
  unfold around
  dsimp only
  refine ⟨?_, ?_⟩
  all_goals
    repeat' split
    all_goals
      dsimp only
      omega

end CandidateWindow

theorem Sequence.bound_of_inside {length : Nat} {position : Int} (nonnegative : 0 ≤ position)
    (inside : position ≤ length) : bound length position = position.toNat := by
  dsimp only [bound]
  rw [if_neg (by omega)]
  omega

namespace CurveOrder

variable {curve : CurveOrder} {low high : Int}

theorem keysBetween_eq (nonnegative : 0 ≤ low) (ordered : low ≤ high)
    (inside : high < curve.length) :
    curve.keysBetween low high = (curve.order.keys.take (high.toNat + 1)).drop low.toNat := by
  have size : curve.length = curve.order.keys.length := rfl
  have stop : Sequence.bound curve.order.keys.length (high + 1) = high.toNat + 1 := by
    rw [Sequence.bound_of_inside (by omega) (by omega)]
    omega
  have start : Sequence.bound curve.order.keys.length low = low.toNat :=
    Sequence.bound_of_inside nonnegative (by omega)
  rw [keysBetween, Sequence.slice, stop, start]

theorem length_keysBetween (nonnegative : 0 ≤ low) (ordered : low ≤ high)
    (inside : high < curve.length) :
    ((curve.keysBetween low high).length : Int) = high - low + 1 := by
  have size : curve.length = curve.order.keys.length := rfl
  rw [keysBetween_eq nonnegative ordered inside, List.length_drop, List.length_take]
  omega

theorem pairwise_keysBetween (curve : CurveOrder) (low high : Int) :
    (curve.keysBetween low high).Pairwise fun earlier later => (earlier == later) = false :=
  curve.order.distinct.sublist ((List.drop_sublist ..).trans (List.take_sublist ..))

/-- The keys between two positions are those whose positions lie between them. -/
theorem any_keysBetween (nonnegative : 0 ≤ low) (ordered : low ≤ high)
    (inside : high < curve.length) (key : Key) :
    (curve.keysBetween low high).any (· == key) = true ↔
      ∃ place : Nat, curve.position key = .ok place ∧ low ≤ place ∧ place ≤ high := by
  rw [keysBetween_eq nonnegative ordered inside, List.any_eq_true]
  constructor
  · rintro ⟨member, isMember, same⟩
    rcases List.getElem?_of_mem isMember with ⟨offset, found⟩
    rw [List.getElem?_drop] at found
    have below : low.toNat + offset < high.toNat + 1 := by
      have bound := (List.getElem?_eq_some_iff.mp found).1
      rw [List.length_take] at bound
      omega
    rw [List.getElem?_take_of_lt below] at found
    refine ⟨low.toNat + offset, KeySequence.position_eq_ok_iff.mpr ⟨member, found, same⟩, ?_, ?_⟩
    · omega
    · omega
  · rintro ⟨place, found, above, below⟩
    rcases KeySequence.position_eq_ok_iff.mp found with ⟨member, isMember, same⟩
    have reached : low.toNat + (place - low.toNat) = place := by omega
    refine ⟨member, ?_, same⟩
    apply List.mem_of_getElem? (i := place - low.toNat)
    rw [List.getElem?_drop, List.getElem?_take_of_lt (by omega), reached]
    exact isMember

end CurveOrder

end CurveNeighbors
