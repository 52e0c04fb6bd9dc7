import CurveNeighbors.Number.Basic
import CurveNeighbors.Proofs.Number.Doubles

/-!
# Values of doubles

The values of finite doubles are ordered like their bits. The double that is closest to a
share of a whole is one exactly if the share is the whole: there are as many doubles
between one half and one as a whole of up to `2 ^ 53` has parts, so the largest share that
is not the whole is not rounded up to it.
-/

namespace CurveNeighbors

open Float.Model UnpackedFloat

namespace Binary64

theorem scaled_eq (significand : Nat) (exponent : Int) :
    scaled significand exponent = (significand : ℚ) * 2 ^ exponent := by
  rw [scaled, powerQuotient]
  by_cases nonnegative : 0 ≤ exponent
  · rcases Int.eq_ofNat_of_zero_le nonnegative with ⟨power, rfl⟩
    rw [if_pos nonnegative]
    simp [Rat.mkRat_eq_div]
  · rcases Int.eq_ofNat_of_zero_le (show 0 ≤ -exponent by omega) with ⟨power, isPower⟩
    rw [if_neg nonnegative, ← neg_neg exponent, isPower]
    simp [Rat.mkRat_eq_div, div_eq_mul_inv]

/-- The value of the magnitude of a finite double. -/
def magnitudeValue (number : Float) : ℚ :=
  scaled (significand number) (exponent number)

theorem magnitudeValue_nonneg (number : Float) : 0 ≤ magnitudeValue number := by
  rw [magnitudeValue, scaled_eq]
  positivity

theorem magnitudeValue_lt {smaller larger : Float}
    (ordered : magnitudeBits smaller < magnitudeBits larger) :
    magnitudeValue smaller < magnitudeValue larger := by
  rcases significand_lt ordered with ⟨exponents, significands⟩
  have shift : exponent larger =
      (exponent larger - exponent smaller).toNat + exponent smaller := by omega
  have positive : (0 : ℚ) < 2 ^ exponent smaller := by positivity
  rw [magnitudeValue, magnitudeValue, scaled_eq, scaled_eq]
  calc (significand smaller : ℚ) * 2 ^ exponent smaller
    _ < (significand larger * 2 ^ (exponent larger - exponent smaller).toNat : ℕ) *
          2 ^ exponent smaller := by
        apply mul_lt_mul_of_pos_right _ positive
        exact_mod_cast significands
    _ = significand larger * 2 ^ exponent larger := by
        conv_rhs => rw [shift]
        rw [zpow_add₀ two_ne_zero, zpow_natCast]
        push_cast
        ring

theorem magnitudeValue_le {smaller larger : Float}
    (ordered : magnitudeBits smaller ≤ magnitudeBits larger) :
    magnitudeValue smaller ≤ magnitudeValue larger := by
  rcases Nat.eq_or_lt_of_le ordered with equal | less
  · simp [magnitudeValue, significand, exponent, equal]
  · exact (magnitudeValue_lt less).le

/-! ## The order of doubles -/

/-- The value of a finite double. -/
def signedValue (number : Float) : ℚ :=
  if isNegative number then -magnitudeValue number else magnitudeValue number

theorem IsFinite.exact_eq {number : Float} (finite : IsFinite number) :
    exact number = .finite (signedValue number) := by
  rw [exact, finite.parts_eq]
  rfl

theorem signedValue_le {lower upper : Float} (ordered : place lower ≤ place upper) :
    signedValue lower ≤ signedValue upper := by
  have lowerNonneg := magnitudeValue_nonneg lower
  have upperNonneg := magnitudeValue_nonneg upper
  unfold place at ordered
  unfold signedValue
  generalize isNegative lower = lowerNegative at *
  generalize isNegative upper = upperNegative at *
  cases lowerNegative <;> cases upperNegative <;>
    simp only [Bool.false_eq_true, if_false, if_true] at ordered ⊢
  · apply magnitudeValue_le
    omega
  · -- Only the two zeros are left.
    have noBits : ∀ {number : Float}, magnitudeBits number = 0 → magnitudeValue number = 0 := by
      intro number none
      rw [magnitudeValue, scaled_eq, significand_eq_zero_iff.mpr none, Nat.cast_zero, zero_mul]
    rw [noBits (show magnitudeBits lower = 0 by omega),
      noBits (show magnitudeBits upper = 0 by omega), neg_zero]
  · exact (neg_nonpos.mpr lowerNonneg).trans upperNonneg
  · apply neg_le_neg
    apply magnitudeValue_le
    omega

/-- What a defined double stands for, and where it lies. -/
theorem exact_cases {number : Float} (defined : isUndefined number = false) :
    exact number = .finite (signedValue number) ∧ -(infinityBits : Int) < place number ∧
        place number < infinityBits ∨
      exact number = .positiveInfinity ∧ place number = infinityBits ∨
      exact number = .negativeInfinity ∧ place number = -(infinityBits : Int) := by
  rw [isUndefined, decide_eq_false_iff_not] at defined
  rcases Nat.lt_or_ge (magnitudeBits number) infinityBits with finite | beyond
  · left
    refine ⟨IsFinite.exact_eq finite, ?_⟩
    unfold place
    split <;> omega
  · right
    have infinite : magnitudeBits number = infinityBits := by omega
    rw [exact, parts, if_neg defined, if_pos infinite, place, infinite]
    cases isNegative number
    · exact Or.inl ⟨rfl, rfl⟩
    · exact Or.inr ⟨rfl, rfl⟩

/-- Defined doubles are ordered like their places. -/
theorem atMost_of_place_le {lower upper : Float} (lowerDefined : isUndefined lower = false)
    (upperDefined : isUndefined upper = false) (ordered : place lower ≤ place upper) :
    (Number.real lower).atMost (.real upper) = true := by
  have positive : 0 < infinityBits := by decide
  rw [Number.atMost, Number.less, Number.exact, Number.exact, Bool.or_eq_true]
  rcases exact_cases lowerDefined with ⟨low, _, _⟩ | ⟨low, _⟩ | ⟨low, _⟩ <;>
    rcases exact_cases upperDefined with ⟨high, _, _⟩ | ⟨high, _⟩ | ⟨high, _⟩ <;>
    rw [low, high]
  case inl.inl =>
    rcases (signedValue_le ordered).lt_or_eq with less | equal
    · exact Or.inl (decide_eq_true less)
    · rw [equal]
      right
      simp [ExactValue.same]
  all_goals first
    | omega
    | exact Or.inl rfl
    | exact Or.inr rfl

/-- What a finite double is larger than a positive one by, relative to that one, is not negative. -/
theorem IsFinite.isNonnegative_excess {far near : Float} (farFinite : IsFinite far)
    (nearFinite : IsFinite near) (positive : 0 < signedValue near)
    (ordered : place near ≤ place far) : IsNonnegative ((far - near) / near) := by
  have nearPositive : isNegative near = false := by
    by_contra negative
    rw [signedValue, if_pos (by simpa using negative)] at positive
    exact absurd positive (not_lt.mpr (neg_nonpos.mpr (magnitudeValue_nonneg near)))
  have some : 0 < significand near := by
    apply Nat.pos_of_ne_zero
    intro none
    rw [signedValue, nearPositive, magnitudeValue, scaled_eq, none] at positive
    simp at positive
  have someBits : magnitudeBits near ≠ 0 := fun none =>
    Nat.ne_of_gt some (significand_eq_zero_iff.mpr none)
  rw [place, place, nearPositive, if_neg Bool.false_ne_true] at ordered
  have farPositive : isNegative far = false := by
    by_contra negative
    rw [if_pos (by simpa using negative)] at ordered
    omega
  rw [farPositive, if_neg Bool.false_ne_true] at ordered
  have difference : IsNonnegative (far - near) :=
    farFinite.isNonnegative_sub nearFinite farPositive nearPositive (Int.ofNat_le.mp ordered)
  apply isNonnegative_packed
  apply difference.hasSign.div
  rw [nearFinite.unpack_eq, nearPositive, Parts.unpacked, dif_pos some]
  rfl

/-! ## Doubles closest to a share -/

theorem toNat_toBits_ofMagnitudeBits {magnitude : Nat} (limited : magnitude ≤ infinityBits) :
    (ofMagnitudeBits false magnitude).toBits.toNat = magnitude := by
  have small : magnitude < 18446744073709551616 := Nat.lt_of_le_of_lt limited (by decide)
  have bits : (UInt64.ofNat magnitude).toBitVec.toNat = magnitude := by
    rw [UInt64.toBitVec_ofNat', BitVec.toNat_ofNat, Nat.mod_eq_of_lt small]
  change (UnpackedFloat.pack Format.binary64
    (UnpackedFloat.unpack Format.binary64 (UInt64.ofNat magnitude).toBitVec)).toNat = magnitude
  rw [pack_unpack_of_valid, bits]
  refine ⟨?_⟩
  intro topmost fraction
  -- With these bits the magnitude would lie above that of infinity.
  have isTop := toNat_unpackExponent (UInt64.ofNat magnitude).toBitVec
  have isFraction := toNat_unpackMantissa (UInt64.ofNat magnitude).toBitVec
  have some : (@unpackMantissa Format.binary64 (UInt64.ofNat magnitude).toBitVec).toNat ≠ 0 := by
    intro none
    exact fraction (BitVec.eq_of_toNat_eq none)
  have value : (-1#11).toNat = 2047 := rfl
  rw [topmost, bits, value] at isTop
  rw [bits] at isFraction
  unfold leadingBit at isTop isFraction
  unfold infinityBits at limited
  omega

theorem roundedQuotient_le {numerator denominator limit : Nat} (positive : 0 < denominator)
    (below : numerator ≤ limit * denominator) :
    roundedQuotient numerator denominator ≤ limit := by
  have whole := Nat.div_add_mod numerator denominator
  unfold roundedQuotient
  dsimp only
  rcases Nat.lt_or_ge (numerator / denominator) limit with less | more
  · split <;> omega
  · have exactly : numerator / denominator = limit :=
      Nat.le_antisymm (Nat.div_le_of_le_mul (by rwa [Nat.mul_comm])) more
    have none : numerator % denominator = 0 := by
      rw [exactly, Nat.mul_comm] at whole
      omega
    rw [exactly, none, if_neg (by omega)]

/-- The significand of a share that is not the whole is read at a negative exponent, and has no
more than 53 bits there. -/
theorem exists_exponentOf_eq {part whole : Nat} (some : 0 < part) (less : part < whole)
    (small : whole ≤ 2 ^ 53) :
    ∃ shift : Nat, 53 ≤ shift ∧ shift ≤ 1074 ∧ exponentOf part whole = -(shift : Int) ∧
      part * 2 ^ shift < whole * 2 ^ 53 := by
  have partLow := Nat.log2_self_le (Nat.ne_of_gt some)
  have partHigh : part < 2 ^ (part.log2 + 1) := Nat.lt_log2_self
  have wholeLow : 2 ^ whole.log2 ≤ whole := Nat.log2_self_le (by omega)
  have logs : part.log2 ≤ whole.log2 := (Nat.le_log2 (by omega)).mpr (by omega)
  have limit : whole.log2 ≤ 53 := by
    apply (Nat.pow_le_pow_iff_right (a := 2) (by decide)).mp
    omega
  rcases Nat.exists_eq_add_of_le logs with ⟨gap, isGap⟩
  have isGuess : (part.log2 : Int) - whole.log2 = -(gap : Int) := by omega
  have reaches : reachesPower (-(gap : Int)) part whole = decide (whole ≤ part * 2 ^ gap) := by
    rw [reachesPower, powerQuotient]
    rcases Nat.eq_zero_or_pos gap with rfl | positive
    · simp
    · rw [if_neg (by omega)]
      simp
  have bounded : part * 2 ^ (52 + gap) < whole * 2 ^ 53 := by
    calc part * 2 ^ (52 + gap)
      _ < 2 ^ (part.log2 + 1) * 2 ^ (52 + gap) :=
          Nat.mul_lt_mul_of_pos_right partHigh (Nat.two_pow_pos _)
      _ = 2 ^ whole.log2 * 2 ^ 53 := by
          rw [isGap, ← Nat.pow_add, ← Nat.pow_add]
          congr 1
          omega
      _ ≤ whole * 2 ^ 53 := Nat.mul_le_mul_right _ wholeLow
  rw [exponentOf, isGuess, reaches]
  by_cases reached : whole ≤ part * 2 ^ gap
  · have positive : 0 < gap := by
      apply Nat.pos_of_ne_zero
      rintro rfl
      omega
    refine ⟨52 + gap, by omega, by omega, ?_, bounded⟩
    rw [decide_eq_true reached, if_pos rfl, leastExponent, fractionWidth]
    omega
  · refine ⟨53 + gap, by omega, by omega, ?_, ?_⟩
    · rw [decide_eq_false reached, if_neg (by decide), leastExponent, fractionWidth]
      omega
    · rw [Nat.add_comm, Nat.pow_add, ← Nat.mul_assoc]
      exact Nat.mul_lt_mul_of_pos_right (Nat.lt_of_not_le reached) (Nat.two_pow_pos _)

theorem roundedAt_neg (shift part whole : Nat) :
    roundedAt (-(shift : Int)) part whole = roundedQuotient (part * 2 ^ shift) whole := by
  rw [roundedAt, neg_neg, powerQuotient, if_pos (Int.natCast_nonneg _)]
  simp

/-- No share but the whole is rounded to it. -/
theorem nearestBits_lt {part whole : Nat} (less : part < whole) (small : whole ≤ 2 ^ 53) :
    nearestBits part whole < 1023 * leadingBit := by
  rw [nearestBits]
  by_cases none : part = 0
  · rw [if_pos none]
    decide
  · have some := Nat.pos_of_ne_zero none
    rcases exists_exponentOf_eq some less small with ⟨shift, least, most, isExponent, bounded⟩
    have limited : roundedQuotient (part * 2 ^ shift) whole ≤ 2 ^ 53 := by
      apply roundedQuotient_le (by omega)
      rw [Nat.mul_comm (2 ^ 53)]
      exact bounded.le
    have biased : (-(shift : Int) - leastExponent).toNat = 1074 - shift := by
      rw [leastExponent]
      omega
    rw [if_neg none, isExponent]
    dsimp only
    rw [roundedAt_neg, biased]
    rcases Nat.eq_or_lt_of_le least with rfl | further
    · have notWhole : roundedQuotient (part * 2 ^ 53) whole ≤ 2 ^ 53 - 1 := by
        apply roundedQuotient_le (by omega)
        calc part * 2 ^ 53
          _ ≤ (whole - 1) * 2 ^ 53 := Nat.mul_le_mul_right _ (by omega)
          _ = 2 ^ 53 * whole - 2 ^ 53 := by rw [Nat.sub_mul, Nat.one_mul, Nat.mul_comm]
          _ ≤ 2 ^ 53 * whole - 1 * whole := by omega
          _ = (2 ^ 53 - 1) * whole := (Nat.sub_mul ..).symm
      calc (1074 - 53) * leadingBit + roundedQuotient (part * 2 ^ 53) whole
        _ ≤ (1074 - 53) * leadingBit + (2 ^ 53 - 1) := Nat.add_le_add_left notWhole _
        _ < 1023 * leadingBit := by decide
    · have shifted : 1074 - shift ≤ 1020 := by omega
      calc (1074 - shift) * leadingBit + roundedQuotient (part * 2 ^ shift) whole
        _ ≤ 1020 * leadingBit + 2 ^ 53 :=
            Nat.add_le_add (Nat.mul_le_mul_right _ shifted) limited
        _ < 1023 * leadingBit := by decide

/-- The whole is rounded to one. -/
theorem nearestBits_self {whole : Nat} (positive : 0 < whole) :
    nearestBits whole whole = 1023 * leadingBit := by
  have reaches : reachesPower 0 whole whole = true := by
    simp [reachesPower, powerQuotient]
  have isExponent : exponentOf whole whole = -((52 : Nat) : Int) := by
    rw [exponentOf, Int.sub_self, reaches]
    rfl
  have rounded : roundedQuotient (whole * 2 ^ 52) whole = 2 ^ 52 := by
    unfold roundedQuotient
    rw [Nat.mul_div_cancel_left _ positive, Nat.mul_mod_right]
    simp only [Nat.mul_zero]
    rw [if_neg (by omega)]
  rw [nearestBits, if_neg (Nat.ne_of_gt positive), isExponent]
  dsimp only
  rw [roundedAt_neg, rounded]
  rfl

theorem magnitudeBits_nearest {part whole : Nat} (finite : nearestBits part whole < infinityBits) :
    magnitudeBits (nearest false part whole) = nearestBits part whole ∧
      isNegative (nearest false part whole) = false := by
  have bits : (nearest false part whole).toBits.toNat = nearestBits part whole := by
    rw [nearest, Nat.min_eq_right finite.le]
    exact toNat_toBits_ofMagnitudeBits finite.le
  have small : infinityBits < signBit := by decide
  rw [magnitudeBits, isNegative, bits, decide_eq_false_iff_not]
  exact ⟨Nat.mod_eq_of_lt (by omega), by omega⟩

theorem exact_nearest {part whole : Nat} (finite : nearestBits part whole < infinityBits) :
    exact (nearest false part whole) = .finite (magnitudeValue (nearest false part whole)) := by
  rcases magnitudeBits_nearest finite with ⟨bits, notNegative⟩
  have isFinite : IsFinite (nearest false part whole) := by
    rw [IsFinite, bits]
    exact finite
  rw [isFinite.exact_eq, signedValue, notNegative, if_neg Bool.false_ne_true]

/-- The value of the double closest to a share is one exactly if the share is the whole. -/
theorem exists_exact_nearest {part whole : Nat} (limited : part ≤ whole) (positive : 0 < whole)
    (small : whole ≤ 2 ^ 53) :
    ∃ value, exact (nearest false part whole) = .finite value ∧ (value = 1 ↔ part = whole) := by
  have finite : 1023 * leadingBit < infinityBits := by decide
  have bounded : nearestBits part whole ≤ 1023 * leadingBit := by
    rcases Nat.eq_or_lt_of_le limited with rfl | less
    · exact (nearestBits_self positive).le
    · exact (nearestBits_lt less small).le
  have one := (magnitudeBits_nearest ((nearestBits_self positive).le.trans_lt finite)).1
  have oneValue : magnitudeValue (nearest false whole whole) = 1 := by
    rw [magnitudeValue, significand, exponent, one, nearestBits_self positive]
    rfl
  refine ⟨_, exact_nearest (bounded.trans_lt finite), ?_⟩
  constructor
  · intro isOne
    by_contra notWhole
    have less := nearestBits_lt (Nat.lt_of_le_of_ne limited notWhole) small
    have below : magnitudeValue (nearest false part whole) <
        magnitudeValue (nearest false whole whole) := by
      apply magnitudeValue_lt
      rw [(magnitudeBits_nearest (bounded.trans_lt finite)).1, one, nearestBits_self positive]
      exact less
    rw [isOne, oneValue] at below
    exact lt_irrefl _ below
  · rintro rfl
    exact oneValue

/-! ## Doubles closest to a natural -/

theorem roundedQuotient_one (numerator : Nat) : roundedQuotient numerator 1 = numerator := by
  simp [roundedQuotient, Nat.mod_one]

theorem nearestBits_one {number : Nat} (positive : 0 < number) (small : number.log2 ≤ 52) :
    nearestBits number 1 =
      (1022 + number.log2) * leadingBit + number * 2 ^ (52 - number.log2) := by
  have reaches : reachesPower number.log2 number 1 = true := by
    have low := Nat.log2_self_le (Nat.ne_of_gt positive)
    simpa [reachesPower, powerQuotient] using low
  have isExponent : exponentOf number 1 = -((52 - number.log2 : Nat) : Int) := by
    have one : ((number.log2 : Int) - (1 : Nat).log2) = number.log2 := Int.sub_zero _
    rw [exponentOf, one, reaches, if_pos rfl, leastExponent, fractionWidth]
    omega
  have biased : (-((52 - number.log2 : Nat) : Int) - leastExponent).toNat =
      1022 + number.log2 := by
    rw [leastExponent]
    omega
  rw [nearestBits, if_neg (Nat.ne_of_gt positive), isExponent]
  dsimp only
  rw [roundedAt_neg, roundedQuotient_one, biased]

/-- A natural of no more than 53 bits is a double. -/
theorem exists_ofInt?_eq {number : Nat} (positive : 0 < number) (small : number ≤ 2 ^ 53) :
    ∃ double, ofInt? number = some double ∧ exact double = .finite number := by
  have isNearest : ofInt? number = nearest? false number 1 := by
    rw [ofInt?, decide_eq_false (by omega), Int.natAbs_natCast]
  rw [isNearest, nearest?]
  rcases Nat.eq_or_lt_of_le small with rfl | less
  · exact ⟨_, if_pos (by decide), by decide⟩
  · have log : number.log2 ≤ 52 := by
      apply Nat.le_of_lt_succ
      exact (Nat.log2_lt (Nat.ne_of_gt positive)).mpr less
    have low : leadingBit ≤ number * 2 ^ (52 - number.log2) := by
      calc 2 ^ 52
        _ = 2 ^ number.log2 * 2 ^ (52 - number.log2) := by
            rw [← Nat.pow_add]
            congr 1
            omega
        _ ≤ _ := Nat.mul_le_mul_right _ (Nat.log2_self_le (Nat.ne_of_gt positive))
    have high : number * 2 ^ (52 - number.log2) < 2 * leadingBit := by
      calc number * 2 ^ (52 - number.log2)
        _ < 2 ^ (number.log2 + 1) * 2 ^ (52 - number.log2) :=
            Nat.mul_lt_mul_of_pos_right Nat.lt_log2_self (Nat.two_pow_pos _)
        _ = 2 ^ 53 := by
            rw [← Nat.pow_add]
            congr 1
            omega
    have bits := nearestBits_one positive log
    have finite : nearestBits number 1 < infinityBits := by
      rw [bits]
      unfold leadingBit at high ⊢
      unfold infinityBits
      omega
    refine ⟨_, if_pos finite, ?_⟩
    have biased : nearestBits number 1 / leadingBit = 1023 + number.log2 := by
      rw [bits]
      unfold leadingBit at low high ⊢
      omega
    have fraction : nearestBits number 1 % leadingBit + leadingBit =
        number * 2 ^ (52 - number.log2) := by
      rw [bits]
      unfold leadingBit at low high ⊢
      omega
    have power : (52 - number.log2 : Nat) + (leastExponent + ((1023 + number.log2 : Nat) - 1)) =
        (0 : Int) := by
      rw [leastExponent]
      omega
    rw [exact_nearest finite, magnitudeValue, significand, exponent,
      (magnitudeBits_nearest finite).1, biased, if_neg (by omega), if_neg (by omega), fraction,
      scaled_eq]
    rw [Nat.cast_mul, Nat.cast_pow, Nat.cast_two, mul_assoc, ← zpow_natCast,
      ← zpow_add₀ two_ne_zero, power, zpow_zero, mul_one]

end Binary64

end CurveNeighbors
