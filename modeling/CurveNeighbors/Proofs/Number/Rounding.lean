import CurveNeighbors.Proofs.Number.Values

/-!
# Rounding keeps the order

The double closest to a quotient grows with the numerator. At one exponent this is so
because rounding to a natural keeps the order. Where the exponent grows, the smaller
quotient is rounded to a significand of at most 53 bits and the larger one to one of
exactly 53, so the step to the next exponent makes up for any difference between them.
-/

namespace CurveNeighbors

namespace Binary64

theorem powerQuotient_spec (coefficient : Nat) (exponent : Int) :
    0 < (powerQuotient 2 coefficient exponent).2 ∧
      ((powerQuotient 2 coefficient exponent).1 : ℚ) =
        coefficient * 2 ^ exponent * (powerQuotient 2 coefficient exponent).2 := by
  have positive : 0 < (powerQuotient 2 coefficient exponent).2 := by
    unfold powerQuotient
    split
    · exact Nat.one_pos
    · exact Nat.two_pow_pos _
  refine ⟨positive, ?_⟩
  have quotient : mkRat (powerQuotient 2 coefficient exponent).1
      (powerQuotient 2 coefficient exponent).2 = (coefficient : ℚ) * 2 ^ exponent :=
    scaled_eq coefficient exponent
  rw [Rat.mkRat_eq_div] at quotient
  have some : ((powerQuotient 2 coefficient exponent).2 : ℚ) ≠ 0 := by
    exact_mod_cast positive.ne'
  exact (div_eq_iff some).mp quotient

theorem reachesPower_iff {power : Int} {numerator denominator : Nat} :
    reachesPower power numerator denominator = true ↔
      (denominator : ℚ) * 2 ^ power ≤ numerator := by
  rcases powerQuotient_spec denominator power with ⟨positive, scaled⟩
  have some : (0 : ℚ) < (powerQuotient 2 denominator power).2 := by exact_mod_cast positive
  rw [← mul_le_mul_iff_of_pos_right some, ← scaled]
  simp only [reachesPower, decide_eq_true_eq]
  exact_mod_cast Iff.rfl

/-- A positive quotient lies between the power that its exponent is read from and the next. -/
theorem exists_power {numerator denominator : Nat} (some : 0 < numerator)
    (positive : 0 < denominator) :
    ∃ power : Int, exponentOf numerator denominator = max leastExponent (power - 52) ∧
      (denominator : ℚ) * 2 ^ power ≤ numerator ∧
      (numerator : ℚ) < denominator * 2 ^ (power + 1) := by
  have numeratorLow : (2 : ℚ) ^ (numerator.log2 : Int) ≤ numerator := by
    exact_mod_cast Nat.log2_self_le some.ne'
  have numeratorHigh : (numerator : ℚ) < 2 ^ ((numerator.log2 : Int) + 1) := by
    exact_mod_cast (Nat.lt_log2_self : numerator < 2 ^ (numerator.log2 + 1))
  have denominatorLow : (2 : ℚ) ^ (denominator.log2 : Int) ≤ denominator := by
    exact_mod_cast Nat.log2_self_le positive.ne'
  have denominatorHigh : (denominator : ℚ) < 2 ^ ((denominator.log2 : Int) + 1) := by
    exact_mod_cast (Nat.lt_log2_self : denominator < 2 ^ (denominator.log2 + 1))
  let guess : Int := numerator.log2 - denominator.log2
  by_cases reached : reachesPower guess numerator denominator = true
  · refine ⟨guess, ?_, reachesPower_iff.mp reached, ?_⟩
    · simp [exponentOf, guess, reached, fractionWidth]
    · calc (numerator : ℚ)
        _ < 2 ^ ((numerator.log2 : Int) + 1) := numeratorHigh
        _ = 2 ^ (denominator.log2 : Int) * 2 ^ (guess + 1) := by
            rw [← zpow_add₀ two_ne_zero]
            congr 1
            omega
        _ ≤ denominator * 2 ^ (guess + 1) := by gcongr
  · refine ⟨guess - 1, ?_, ?_, ?_⟩
    · simp [exponentOf, guess, reached, fractionWidth]
    · calc (denominator : ℚ) * 2 ^ (guess - 1)
        _ ≤ 2 ^ ((denominator.log2 : Int) + 1) * 2 ^ (guess - 1) := by gcongr
        _ = 2 ^ (numerator.log2 : Int) := by
            rw [← zpow_add₀ two_ne_zero]
            congr 1
            omega
        _ ≤ numerator := numeratorLow
    · rw [sub_add_cancel]
      exact not_le.mp (mt reachesPower_iff.mpr reached)

/-! ## Rounding to a natural -/

theorem roundedQuotient_mono {numerator larger : Nat} (denominator : Nat)
    (ordered : numerator ≤ larger) :
    roundedQuotient numerator denominator ≤ roundedQuotient larger denominator := by
  have quotients : numerator / denominator ≤ larger / denominator :=
    Nat.div_le_div_right ordered
  have whole := Nat.div_add_mod numerator denominator
  have largerWhole := Nat.div_add_mod larger denominator
  unfold roundedQuotient
  dsimp only
  rcases Nat.eq_or_lt_of_le quotients with same | less
  · rw [same] at whole ⊢
    split <;> split <;> omega
  · split <;> split <;> omega

theorem le_roundedQuotient {numerator denominator limit : Nat} (positive : 0 < denominator)
    (above : limit * denominator ≤ numerator) :
    limit ≤ roundedQuotient numerator denominator := by
  have reached : limit ≤ numerator / denominator := (Nat.le_div_iff_mul_le positive).mpr above
  unfold roundedQuotient
  dsimp only
  split <;> omega

theorem roundedAt_mono {numerator larger : Nat} (exponent : Int) (denominator : Nat)
    (ordered : numerator ≤ larger) :
    roundedAt exponent numerator denominator ≤ roundedAt exponent larger denominator := by
  simp only [roundedAt, powerQuotient]
  split_ifs
  · exact roundedQuotient_mono _ (Nat.mul_le_mul_right _ ordered)
  · exact roundedQuotient_mono _ ordered

section

variable {numerator denominator limit : Nat} {exponent : Int}

theorem roundedAt_le (positive : 0 < denominator)
    (below : (numerator : ℚ) ≤ limit * denominator * 2 ^ exponent) :
    roundedAt exponent numerator denominator ≤ limit := by
  rcases powerQuotient_spec numerator (-exponent) with ⟨divisorPositive, scaled⟩
  apply roundedQuotient_le (Nat.mul_pos positive divisorPositive)
  have bound : ((powerQuotient 2 numerator (-exponent)).1 : ℚ) ≤
      limit * (denominator * (powerQuotient 2 numerator (-exponent)).2) := by
    calc ((powerQuotient 2 numerator (-exponent)).1 : ℚ)
      _ = numerator * 2 ^ (-exponent) * (powerQuotient 2 numerator (-exponent)).2 := scaled
      _ ≤ limit * denominator * 2 ^ exponent * 2 ^ (-exponent) *
            (powerQuotient 2 numerator (-exponent)).2 := by gcongr
      _ = limit * (denominator * (powerQuotient 2 numerator (-exponent)).2) := by
            rw [mul_assoc (_ * _) (2 ^ exponent), ← zpow_add₀ two_ne_zero, add_neg_cancel,
              zpow_zero]
            ring
  exact_mod_cast bound

theorem le_roundedAt (positive : 0 < denominator)
    (above : (limit : ℚ) * denominator * 2 ^ exponent ≤ numerator) :
    limit ≤ roundedAt exponent numerator denominator := by
  rcases powerQuotient_spec numerator (-exponent) with ⟨divisorPositive, scaled⟩
  apply le_roundedQuotient (Nat.mul_pos positive divisorPositive)
  have bound : limit * (denominator * (powerQuotient 2 numerator (-exponent)).2) ≤
      ((powerQuotient 2 numerator (-exponent)).1 : ℚ) := by
    calc (limit : ℚ) * (denominator * (powerQuotient 2 numerator (-exponent)).2)
      _ = limit * denominator * 2 ^ exponent * 2 ^ (-exponent) *
            (powerQuotient 2 numerator (-exponent)).2 := by
            rw [mul_assoc (_ * _) (2 ^ exponent), ← zpow_add₀ two_ne_zero, add_neg_cancel,
              zpow_zero]
            ring
      _ ≤ numerator * 2 ^ (-exponent) * (powerQuotient 2 numerator (-exponent)).2 := by gcongr
      _ = (powerQuotient 2 numerator (-exponent)).1 := scaled.symm
  exact_mod_cast bound

end

/-! ## Rounding to a double -/

/-- Of two quotients with one denominator the larger one has no smaller bits. -/
theorem nearestBits_mono {numerator larger denominator : Nat} (positive : 0 < denominator)
    (ordered : numerator ≤ larger) :
    nearestBits numerator denominator ≤ nearestBits larger denominator := by
  rcases Nat.eq_zero_or_pos numerator with rfl | some
  · simp [nearestBits]
  have someLarger : 0 < larger := some.trans_le ordered
  rcases exists_power some positive with ⟨power, isExponent, low, high⟩
  rcases exists_power someLarger positive with ⟨largerPower, isLarger, largerLow, largerHigh⟩
  have orderedValues : (numerator : ℚ) ≤ larger := by exact_mod_cast ordered
  have whole : (0 : ℚ) < denominator := by exact_mod_cast positive
  have powers : power ≤ largerPower := by
    apply Int.le_of_lt_add_one
    apply (zpow_lt_zpow_iff_right₀ (one_lt_two : (1 : ℚ) < 2)).mp
    apply lt_of_mul_lt_mul_left _ whole.le
    exact low.trans_lt (orderedValues.trans_lt largerHigh)
  simp only [nearestBits, some.ne', someLarger.ne', if_false]
  rcases eq_or_lt_of_le (show exponentOf numerator denominator ≤ exponentOf larger denominator by
    omega) with same | less
  · rw [same]
    exact Nat.add_le_add_left (roundedAt_mono _ _ ordered) _
  · have atMost : roundedAt (exponentOf numerator denominator) numerator denominator ≤ 2 ^ 53 := by
      apply roundedAt_le positive
      calc (numerator : ℚ)
        _ ≤ denominator * 2 ^ (power + 1) := high.le
        _ ≤ denominator * 2 ^ (53 + exponentOf numerator denominator) := by
            apply mul_le_mul_of_nonneg_left _ whole.le
            apply zpow_le_zpow_right₀ one_le_two
            omega
        _ = (2 ^ 53 : ℕ) * denominator * 2 ^ exponentOf numerator denominator := by
            rw [zpow_add₀ two_ne_zero]
            push_cast
            ring
    have atLeast : 2 ^ 52 ≤ roundedAt (exponentOf larger denominator) larger denominator := by
      have isNormal : exponentOf larger denominator = largerPower - 52 := by omega
      apply le_roundedAt positive
      calc ((2 ^ 52 : ℕ) : ℚ) * denominator * 2 ^ exponentOf larger denominator
        _ = denominator * 2 ^ largerPower := by
            rw [isNormal, zpow_sub₀ two_ne_zero]
            push_cast
            ring
        _ ≤ larger := largerLow
    have least : leastExponent ≤ exponentOf numerator denominator := by omega
    unfold leadingBit
    omega

/-- Of two quotients with one denominator the larger one has the larger double. -/
theorem nearest_atMost {numerator larger denominator : Nat} (positive : 0 < denominator)
    (ordered : numerator ≤ larger) :
    (Number.real (nearest false numerator denominator)).atMost
      (.real (nearest false larger denominator)) = true := by
  have bits (part : Nat) : (nearest false part denominator).toBits.toNat =
      min infinityBits (nearestBits part denominator) :=
    toNat_toBits_ofMagnitudeBits (Nat.min_le_left ..)
  have isNonnegative (part : Nat) : IsNonnegative (nearest false part denominator) := by
    rw [IsNonnegative, bits]
    exact Nat.min_le_left ..
  have isPlace (part : Nat) : place (nearest false part denominator) =
      (min infinityBits (nearestBits part denominator) : Nat) := by
    have small : infinityBits < signBit := by decide
    rw [place, (isNonnegative_iff.mp (isNonnegative part)).1, if_neg Bool.false_ne_true,
      magnitudeBits, bits, Nat.mod_eq_of_lt (by omega)]
  apply atMost_of_place_le (isNonnegative_iff.mp (isNonnegative numerator)).2
    (isNonnegative_iff.mp (isNonnegative larger)).2
  rw [isPlace, isPlace]
  have grows := nearestBits_mono positive ordered
  omega

/-- The least natural that is nearer to the power of two beyond the largest double than to that
double. -/
def overflowBound : Nat := 2 ^ 1024 - 2 ^ 970

theorem ofInt?_eq_none_iff {number : Nat} : ofInt? number = none ↔ overflowBound ≤ number := by
  have last : nearestBits (overflowBound - 1) 1 < infinityBits := by decide +kernel
  have beyond : infinityBits ≤ nearestBits overflowBound 1 := by decide +kernel
  rw [ofInt?, decide_eq_false (by omega), Int.natAbs_natCast, nearest?]
  constructor
  · intro none
    by_contra below
    have atMost : nearestBits number 1 ≤ nearestBits (overflowBound - 1) 1 :=
      nearestBits_mono Nat.one_pos (by omega)
    rw [if_pos (atMost.trans_lt last)] at none
    cases none
  · intro above
    have atLeast := nearestBits_mono Nat.one_pos above
    rw [if_neg (by omega)]

end Binary64

end CurveNeighbors
