import CurveNeighbors.Proofs.Windows
import Mathlib.Data.Finset.Card

/-!
# The nearest positions

A window is made of the positions of the curve that are nearest to its own. It is so
although it is not centred where it was shifted inwards: then what was cut off at one
end lies beyond the curve, and what was added at the other end is nearer than whatever
is left. Since every position in the window is strictly nearer than every one outside
it, there is no other choice of as many nearest positions.
-/

namespace CurveNeighbors

namespace CandidateWindow

variable {length position halfWidth : Int}

/-! ## The positions of a window -/

def positions (window : CandidateWindow) : Finset Int :=
  (Finset.range window.size.toNat).image fun offset : Nat => window.low + offset

theorem mem_positions {window : CandidateWindow} {place : Int} :
    place ∈ window.positions ↔ window.low ≤ place ∧ place ≤ window.high := by
  simp only [positions, size, Finset.mem_image, Finset.mem_range]
  constructor
  · rintro ⟨offset, inside, rfl⟩
    omega
  · rintro ⟨above, below⟩
    exact ⟨(place - window.low).toNat, by omega, by omega⟩

theorem card_positions {window : CandidateWindow} (ordered : window.low ≤ window.high) :
    (window.positions.card : Int) = window.size := by
  have injective : Function.Injective fun offset : Nat => window.low + offset := by
    intro left right same
    dsimp only at same
    omega
  rw [positions, Finset.card_image_of_injective _ injective, Finset.card_range, size]
  omega

/-- The window at the same distance from the other end of the curve. -/
def mirrored (length : Int) (window : CandidateWindow) : CandidateWindow :=
  ⟨length - 1 - window.high, length - 1 - window.low, window.requestedSize⟩

theorem mem_positions_mirrored {window : CandidateWindow} {place : Int} :
    length - 1 - place ∈ (window.mirrored length).positions ↔ place ∈ window.positions := by
  rw [mem_positions, mem_positions, mirrored]
  dsimp only
  omega

/-! ## Sets of nearest positions -/

/-- A set of as many positions of a curve as there should be, none of which is farther away than a
position left out. -/
structure AreNearest (length position count : Int) (chosen : Finset Int) : Prop where
  onCurve : ∀ inside ∈ chosen, 0 ≤ inside ∧ inside < length
  counted : (chosen.card : Int) = count
  nearest : ∀ inside ∈ chosen, ∀ outside, 0 ≤ outside → outside < length → outside ∉ chosen →
    (inside - position).natAbs ≤ (outside - position).natAbs

/-- If nothing outside a set of nearest positions is as near as something in it, there is no other
such set. -/
theorem AreNearest.eq_of_strict {count : Int} {chosen others : Finset Int}
    (areNearest : AreNearest length position count chosen)
    (strict : ∀ inside ∈ chosen, ∀ outside, 0 ≤ outside → outside < length → outside ∉ chosen →
      (inside - position).natAbs < (outside - position).natAbs)
    (alsoNearest : AreNearest length position count others) : others = chosen := by
  have equal : others.card = chosen.card := by
    have counted := areNearest.counted
    have alsoCounted := alsoNearest.counted
    omega
  apply Finset.eq_of_subset_of_card_le _ (le_of_eq equal.symm)
  intro extra isExtra
  by_contra notChosen
  -- the other set holds a position of its own, so it lacks one of these
  have lacking : ¬ chosen ⊆ others := by
    intro included
    rw [Finset.eq_of_subset_of_card_le included (le_of_eq equal)] at notChosen
    exact notChosen isExtra
  rcases Finset.not_subset.mp lacking with ⟨missing, isChosen, isMissing⟩
  rcases alsoNearest.onCurve extra isExtra with ⟨above, below⟩
  rcases areNearest.onCurve missing isChosen with ⟨missingAbove, missingBelow⟩
  have nearer := strict missing isChosen extra above below notChosen
  have noFarther := alsoNearest.nearest extra isExtra missing missingAbove missingBelow isMissing
  omega

/-! ## The window around a position -/

/-- Every position in the window is nearer than every other position of the curve, wherever the
window had to be moved to. -/
theorem nearer_of_around (last : position < length) :
    ∀ inside ∈ (around length position halfWidth).positions, ∀ outside, 0 ≤ outside →
      outside < length → outside ∉ (around length position halfWidth).positions →
      (inside - position).natAbs < (outside - position).natAbs := by
  intro inside isInside outside above below isOutside
  rw [mem_positions] at isInside isOutside
  unfold around at isInside isOutside
  dsimp only at isInside isOutside
  split at isInside
  · rw [if_pos (by assumption)] at isOutside
    dsimp only at isInside isOutside
    omega
  · rw [if_neg (by assumption)] at isOutside
    split at isInside
    · rw [if_pos (by assumption)] at isOutside
      dsimp only at isInside isOutside
      omega
    · rw [if_neg (by assumption)] at isOutside
      split at isInside
      · rw [if_pos (by assumption)] at isOutside
        dsimp only at isInside isOutside
        omega
      · rw [if_neg (by assumption)] at isOutside
        dsimp only at isInside isOutside
        omega

theorem areNearest_around (first : 0 ≤ position) (last : position < length)
    (nonnegative : 0 ≤ halfWidth) :
    AreNearest length position (min (2 * halfWidth + 1) length)
      (around length position halfWidth).positions where
  onCurve := by
    intro inside isInside
    have bounds := around_bounds first last nonnegative
    rw [mem_positions] at isInside
    omega
  counted := by
    have bounds := around_bounds first last nonnegative
    rw [card_positions (by omega), size]
    omega
  nearest := by
    intro inside isInside outside above below isOutside
    exact (nearer_of_around last inside isInside outside above below isOutside).le

theorem isTruncated_around (first : 0 ≤ position) (last : position < length)
    (nonnegative : 0 ≤ halfWidth) :
    (around length position halfWidth).isTruncated = true ↔ length < 2 * halfWidth + 1 := by
  have bounds := around_bounds first last nonnegative
  have requested : (around length position halfWidth).requestedSize = 2 * halfWidth + 1 := by
    unfold around
    dsimp only
    repeat' split
    all_goals rfl
  rw [isTruncated, decide_eq_true_iff, requested, size]
  omega

/-- Seen from the other end of the curve, the window is the mirror image: the two ends exchange
their roles, although they are told apart by different comparisons. -/
theorem around_mirrored (length position halfWidth : Int) :
    around length (length - 1 - position) halfWidth =
      (around length position halfWidth).mirrored length := by
  unfold around mirrored
  dsimp only
  by_cases whole : length ≤ 2 * halfWidth + 1
  · rw [if_pos whole, if_pos whole, CandidateWindow.mk.injEq]
    dsimp only
    omega
  · rw [if_neg whole, if_neg whole]
    repeat' split
    all_goals
      rw [CandidateWindow.mk.injEq]
      dsimp only
      omega

theorem positions_subset {window wider : CandidateWindow} (below : wider.low ≤ window.low)
    (above : window.high ≤ wider.high) : window.positions ⊆ wider.positions := by
  intro place isPlace
  rw [mem_positions] at isPlace ⊢
  omega

end CandidateWindow

open CandidateWindow

variable {length position halfWidth : Int} {fault : Fault} {window : CandidateWindow}

/-! ## Asking for a window -/

theorem exists_candidateWindow_iff :
    (∃ window, candidateWindow length position halfWidth = .ok window) ↔
      0 < length ∧ 0 ≤ halfWidth ∧ 0 ≤ position ∧ position < length := by
  constructor
  · rintro ⟨window, success⟩
    unfold candidateWindow at success
    split at success
    · cases success
    · split at success
      · cases success
      · split at success
        · cases success
        · omega
  · rintro ⟨_, nonnegative, first, last⟩
    exact ⟨_, candidateWindow_eq_ok first last nonnegative⟩

theorem eq_around_of_candidateWindow
    (success : candidateWindow length position halfWidth = .ok window) :
    window = around length position halfWidth := by
  rcases exists_candidateWindow_iff.mp ⟨window, success⟩ with ⟨_, nonnegative, first, last⟩
  rw [candidateWindow_eq_ok first last nonnegative] at success
  exact (Except.ok.inj success).symm

theorem exists_fault_iff :
    (∃ fault, candidateWindow length position halfWidth = .error fault) ↔
      length ≤ 0 ∨ halfWidth < 0 ∨ position < 0 ∨ length ≤ position := by
  constructor
  · rintro ⟨fault, failure⟩
    by_contra inside
    have asked : 0 < length ∧ 0 ≤ halfWidth ∧ 0 ≤ position ∧ position < length := by omega
    rcases exists_candidateWindow_iff.mpr asked with ⟨window, success⟩
    rw [failure] at success
    cases success
  · intro outside
    cases outcome : candidateWindow length position halfWidth with
    | error fault => exact ⟨fault, rfl⟩
    | ok window =>
        have inside := exists_candidateWindow_iff.mp ⟨window, outcome⟩
        omega

theorem kind_of_candidateWindow
    (failure : candidateWindow length position halfWidth = .error fault) :
    fault.kind = .parameter := by
  unfold candidateWindow at failure
  split at failure
  · cases failure
    rfl
  · split at failure
    · cases failure
      rfl
    · split at failure
      · cases failure
        rfl
      · cases failure

/-- There is a window unless the curve has no positions, the half width is negative or the position
is not on the curve. It lies on the curve around the position, has as many positions as were asked
for or as the curve has, and is the only set of as many nearest positions. Wider windows contain it,
and seen from the other end of the curve it is its mirror image. -/
theorem candidateWindow_nearest (length position halfWidth : Int) :
    ((∃ fault, candidateWindow length position halfWidth = .error fault) ↔
      length ≤ 0 ∨ halfWidth < 0 ∨ position < 0 ∨ length ≤ position) ∧
    (∀ fault, candidateWindow length position halfWidth = .error fault →
      fault.kind = .parameter) ∧
    ∀ window, candidateWindow length position halfWidth = .ok window →
      (0 ≤ window.low ∧ window.low ≤ position ∧ position ≤ window.high ∧
        window.high ≤ length - 1) ∧
      window.size = min (2 * halfWidth + 1) length ∧
      (window.isTruncated = true ↔ length < 2 * halfWidth + 1) ∧
      (∀ inside ∈ window.positions, ∀ outside, 0 ≤ outside → outside < length →
        outside ∉ window.positions → (inside - position).natAbs < (outside - position).natAbs) ∧
      (∀ chosen, AreNearest length position (min (2 * halfWidth + 1) length) chosen ↔
        chosen = window.positions) ∧
      (∀ wider, halfWidth ≤ wider → ∃ outer, candidateWindow length position wider = .ok outer ∧
        window.positions ⊆ outer.positions) ∧
      candidateWindow length (length - 1 - position) halfWidth = .ok (window.mirrored length) := by
  refine ⟨exists_fault_iff, fun fault failure => kind_of_candidateWindow failure, ?_⟩
  intro window success
  rcases exists_candidateWindow_iff.mp ⟨window, success⟩ with ⟨_, nonnegative, first, last⟩
  cases eq_around_of_candidateWindow success
  have bounds := around_bounds first last nonnegative
  refine ⟨by omega, ?_, isTruncated_around first last nonnegative, nearer_of_around last, ?_, ?_,
    ?_⟩
  · rw [size]
    omega
  · have areNearest := areNearest_around first last nonnegative
    intro chosen
    constructor
    · exact areNearest.eq_of_strict (nearer_of_around last)
    · rintro rfl
      exact areNearest
  · intro wider ordered
    have contained := around_mono length position ordered
    exact ⟨_, candidateWindow_eq_ok first last (by omega), positions_subset contained.1 contained.2⟩
  · rw [candidateWindow_eq_ok (by omega) (by omega) nonnegative, around_mirrored]

/-- On a curve of ten positions, the window of five around the last but one is shifted. -/
theorem candidateWindow_nearest_shifted :
    candidateWindow 10 8 2 = .ok ⟨5, 9, 5⟩ ∧
      ∀ chosen, AreNearest 10 8 5 chosen ↔ chosen = {5, 6, 7, 8, 9} := by
  have success : candidateWindow 10 8 2 = .ok ⟨5, 9, 5⟩ := rfl
  have unique := ((candidateWindow_nearest 10 8 2).2.2 _ success).2.2.2.2.1
  have last : (⟨5, 9, 5⟩ : CandidateWindow).positions = {5, 6, 7, 8, 9} := by decide
  exact ⟨success, last ▸ unique⟩

end CurveNeighbors
