import CurveNeighbors.Number.Binary64
import Mathlib

/-!
# Doubles and their arithmetic

The arithmetic of doubles takes its operands apart, computes exactly, and rounds once.
What it takes apart is what `parts` says, so the sign of a result can be told from the
signs of the operands without a look at how it is rounded: rounding keeps a sign, and
nothing that is defined becomes undefined by it. A double is not negative if its bits lie
no higher than those of infinity; such doubles can be added up, and divided by positive
ones, without ever leaving them.
-/

namespace CurveNeighbors

open Float.Model UnpackedFloat

namespace Binary64

/-! ## Taking doubles apart -/

section

variable (bits : BitVec Format.binary64.numBits)

theorem toNat_unpackMantissa :
    (@unpackMantissa Format.binary64 bits).toNat = bits.toNat % leadingBit := by
  rw [unpackMantissa_def, BitVec.extractLsb'_toNat]
  rfl

theorem toNat_unpackExponent :
    (@unpackExponent Format.binary64 bits).toNat = bits.toNat / leadingBit % 2048 := by
  rw [unpackExponent_def, BitVec.extractLsb'_toNat, Nat.shiftRight_eq_div_pow]
  rfl

theorem ofBitVec_unpackSign :
    Sign.ofBitVec (@unpackSign Format.binary64 bits) =
      if signBit ≤ bits.toNat then .negative else .positive := by
  have bound : bits.toNat < 18446744073709551616 := bits.isLt
  have sign : (@unpackSign Format.binary64 bits).toNat = bits.toNat / signBit % 2 := by
    rw [unpackSign_def, BitVec.extractLsb'_toNat, Nat.shiftRight_eq_div_pow]
    rfl
  have value : signBit = 9223372036854775808 := rfl
  rw [Sign.ofBitVec]
  by_cases high : signBit ≤ bits.toNat
  · rw [if_neg, if_pos high]
    intro clear
    rw [clear, value] at sign
    change 0 = _ at sign
    omega
  · rw [if_pos, if_neg high]
    apply BitVec.eq_of_toNat_eq
    rw [sign, Nat.div_eq_of_lt (Nat.lt_of_not_le high)]
    rfl

end

/-- The sign as the arithmetic of doubles has it. -/
def signOf (negative : Bool) : Sign :=
  if negative then .negative else .positive

/-- The parts of a double as its arithmetic takes them. -/
def Parts.unpacked : Parts → UnpackedFloat
  | .finite negative significand exponent =>
      if some : 0 < significand then .finite (signOf negative) significand exponent some
      else .zero (signOf negative)
  | .infinite negative => .infinity (signOf negative)
  | .undefined => .notANumber

theorem magnitudeBits_mod (number : Float) :
    magnitudeBits number % leadingBit = number.toBits.toNat % leadingBit := by
  unfold magnitudeBits leadingBit signBit
  omega

theorem magnitudeBits_div (number : Float) :
    magnitudeBits number / leadingBit = number.toBits.toNat / leadingBit % 2048 := by
  unfold magnitudeBits leadingBit signBit
  omega

theorem infinityBits_lt_iff (number : Float) :
    infinityBits < magnitudeBits number ↔ number.toBits.toNat / leadingBit % 2048 = 2047 ∧
      number.toBits.toNat % leadingBit ≠ 0 := by
  unfold magnitudeBits infinityBits leadingBit signBit
  omega

theorem magnitudeBits_eq_iff (number : Float) :
    magnitudeBits number = infinityBits ↔ number.toBits.toNat / leadingBit % 2048 = 2047 ∧
      number.toBits.toNat % leadingBit = 0 := by
  unfold magnitudeBits infinityBits leadingBit signBit
  omega

/-- The arithmetic of doubles takes them apart like `parts`. -/
theorem unpack_eq (number : Float) : number.toModel.unpack = (parts number).unpacked := by
  have mantissa : (@unpackMantissa Format.binary64 number.toBits.toBitVec).toNat =
      number.toBits.toNat % leadingBit := toNat_unpackMantissa _
  have exponent : (@unpackExponent Format.binary64 number.toBits.toBitVec).toNat =
      number.toBits.toNat / leadingBit % 2048 := toNat_unpackExponent _
  have sign : Sign.ofBitVec (@unpackSign Format.binary64 number.toBits.toBitVec) =
      signOf (isNegative number) := by
    rw [ofBitVec_unpackSign, signOf, isNegative]
    simp only [decide_eq_true_eq]
    rfl
  have topmost : (@unpackExponent Format.binary64 number.toBits.toBitVec = -1#_) ↔
      number.toBits.toNat / leadingBit % 2048 = 2047 := by
    rw [← BitVec.toNat_inj, exponent]
    rfl
  have lowest : (@unpackExponent Format.binary64 number.toBits.toBitVec = 0#_) ↔
      number.toBits.toNat / leadingBit % 2048 = 0 := by
    rw [← BitVec.toNat_inj, exponent]
    rfl
  have noFraction : (@unpackMantissa Format.binary64 number.toBits.toBitVec = 0#_) ↔
      number.toBits.toNat % leadingBit = 0 := by
    rw [← BitVec.toNat_inj, mantissa]
    rfl
  have normal : (1#1 ++ @unpackMantissa Format.binary64 number.toBits.toBitVec).toNat =
      number.toBits.toNat % leadingBit + leadingBit := by
    rw [BitVec.toNat_append, mantissa, ← Nat.shiftLeft_add_eq_or_of_lt, Nat.add_comm]
    · rfl
    · exact Nat.mod_lt _ (by decide)
  have beyond := infinityBits_lt_iff number
  have infinite := magnitudeBits_eq_iff number
  change UnpackedFloat.unpack Format.binary64 number.toBits.toBitVec = _
  unfold UnpackedFloat.unpack parts
  dsimp only
  rw [magnitudeBits_div, magnitudeBits_mod, sign]
  by_cases isTop : number.toBits.toNat / leadingBit % 2048 = 2047
  · rw [if_pos (topmost.mpr isTop)]
    by_cases isNone : number.toBits.toNat % leadingBit = 0
    · rw [if_pos (noFraction.mpr isNone), if_neg fun more => (beyond.mp more).2 isNone,
        if_pos (infinite.mpr ⟨isTop, isNone⟩)]
      rfl
    · rw [if_neg (mt noFraction.mp isNone), if_pos (beyond.mpr ⟨isTop, isNone⟩)]
      rfl
  · rw [if_neg (mt topmost.mp isTop), if_neg fun more => isTop (beyond.mp more).1,
      if_neg fun equal => isTop (infinite.mp equal).1]
    by_cases isLow : number.toBits.toNat / leadingBit % 2048 = 0
    · rw [if_pos (lowest.mpr isLow), if_pos isLow]
      by_cases isNone : number.toBits.toNat % leadingBit = 0
      · rw [dif_pos (noFraction.mpr isNone), Parts.unpacked, dif_neg (by omega)]
      · rw [dif_neg (mt noFraction.mp isNone), Parts.unpacked, dif_pos (by omega)]
        simp only [mantissa, exponent, isLow]
        rfl
    · have some : 0 < number.toBits.toNat % leadingBit + leadingBit :=
        Nat.add_pos_right _ (by decide)
      rw [if_neg (mt lowest.mp isLow), if_neg isLow, Parts.unpacked, dif_pos some]
      simp only [normal, exponent, leastExponent]
      congr 1
      change (_ : Int) - (1023 + 52) = _
      omega

/-! ## Putting doubles together -/

theorem toNat_packComponents (sign : Sign) (exponent : BitVec 11) (mantissa : BitVec 52) :
    (packComponents Format.binary64 sign exponent mantissa).toNat =
      sign.toBitVec.toNat * signBit + exponent.toNat * leadingBit + mantissa.toNat := by
  have inner :
      (sign.toBitVec ++ exponent).toNat = sign.toBitVec.toNat * 2 ^ 11 + exponent.toNat := by
    rw [BitVec.toNat_append, ← Nat.shiftLeft_add_eq_or_of_lt exponent.isLt, Nat.shiftLeft_eq]
  change (sign.toBitVec ++ exponent ++ mantissa).toNat = _
  rw [BitVec.toNat_append, ← Nat.shiftLeft_add_eq_or_of_lt mantissa.isLt, Nat.shiftLeft_eq, inner,
    signBit, leadingBit]
  omega

/-- The double that is packed from a result of the arithmetic. -/
def packed (result : UnpackedFloat) : Float :=
  .ofModel (Float.Model.pack result)

/-- A result that is not undefined has a sign. -/
inductive HasSign (sign : Sign) : UnpackedFloat → Prop
  | infinity : HasSign sign (.infinity sign)
  | zero : HasSign sign (.zero sign)
  | finite (mantissa : Nat) (exponent : Int) (some : 0 < mantissa) :
      HasSign sign (.finite sign mantissa exponent some)

/-- A result that has a sign is packed with it, and with no more bits than infinity has. -/
theorem HasSign.exists_bits {sign : Sign} {result : UnpackedFloat} (signed : HasSign sign result) :
    ∃ magnitude, magnitude ≤ infinityBits ∧
      (packed result).toBits.toNat = sign.toBitVec.toNat * signBit + magnitude := by
  have infinite : (packedInfinity Format.binary64 sign).toNat =
      sign.toBitVec.toNat * signBit + infinityBits := by
    have topmost : (-1#11).toNat = 2047 := rfl
    have none : (0 : BitVec 52).toNat = 0 := rfl
    have value : 2047 * leadingBit = infinityBits := rfl
    rw [packedInfinity, toNat_packComponents, topmost, none, value, Nat.add_zero]
  change ∃ magnitude, _ ∧ (UnpackedFloat.pack Format.binary64 result).toNat = _
  cases signed with
  | infinity => exact ⟨infinityBits, le_rfl, infinite⟩
  | zero =>
      refine ⟨0, Nat.zero_le _, ?_⟩
      have lowest : (0 : BitVec 11).toNat = 0 := rfl
      have none : (0 : BitVec 52).toNat = 0 := rfl
      rw [UnpackedFloat.pack, packedZero, toNat_packComponents, lowest, none, Nat.zero_mul,
        Nat.add_zero]
  | finite mantissa exponent some =>
      have fraction := (BitVec.ofNat 52 mantissa).isLt
      unfold UnpackedFloat.pack
      dsimp only
      split
      · exact ⟨infinityBits, le_rfl, infinite⟩
      · next fits =>
          change ¬ 2048 ≤ _ at fits
          split
          · refine ⟨_, ?_, (toNat_packComponents ..).trans (Nat.add_assoc ..)⟩
            rw [BitVec.toNat_ofNat, Nat.mod_eq_of_lt (by omega)]
            unfold leadingBit infinityBits
            omega
          · refine ⟨_, ?_, (toNat_packComponents ..).trans (Nat.add_assoc ..)⟩
            rw [BitVec.toNat_zero]
            unfold leadingBit infinityBits
            omega

theorem isUndefined_packed {sign : Sign} {result : UnpackedFloat}
    (signed : HasSign sign result) : isUndefined (packed result) = false := by
  rcases signed.exists_bits with ⟨magnitude, limited, bits⟩
  rw [isUndefined, magnitudeBits, bits, decide_eq_false_iff_not, Nat.mul_add_mod_self_right,
    Nat.mod_eq_of_lt (Nat.lt_of_le_of_lt limited (by decide))]
  exact Nat.not_lt.mpr limited

/-! ## Doubles that are not negative -/

/-- A double that is not negative: a positive zero, a positive number or positive infinity. -/
def IsNonnegative (number : Float) : Prop :=
  number.toBits.toNat ≤ infinityBits

theorem isNonnegative_iff {number : Float} :
    IsNonnegative number ↔ isNegative number = false ∧ isUndefined number = false := by
  have bound : number.toBits.toNat < 18446744073709551616 := number.toBits.toBitVec.isLt
  rw [IsNonnegative, isNegative, isUndefined, magnitudeBits, decide_eq_false_iff_not,
    decide_eq_false_iff_not]
  unfold signBit infinityBits
  omega

theorem IsNonnegative.place_nonneg {number : Float} (nonnegative : IsNonnegative number) :
    0 ≤ place number := by
  rw [place, (isNonnegative_iff.mp nonnegative).1, if_neg Bool.false_ne_true]
  exact Int.natCast_nonneg _

/-- Zero is the only double that is not negative and lies no higher than zero. -/
theorem IsNonnegative.eq_zero {number : Float} (nonnegative : IsNonnegative number)
    (lowest : place number ≤ 0) : number = 0 := by
  have small : infinityBits < signBit := by decide
  rw [place, (isNonnegative_iff.mp nonnegative).1, if_neg Bool.false_ne_true, magnitudeBits,
    Nat.mod_eq_of_lt (Nat.lt_of_le_of_lt nonnegative small)] at lowest
  apply Float.toBits_inj.mp
  apply UInt64.toNat_inj.mp
  have none : (0 : Float).toBits.toNat = 0 := by decide
  omega

theorem isNonnegative_packed {result : UnpackedFloat} (signed : HasSign .positive result) :
    IsNonnegative (packed result) := by
  rcases signed.exists_bits with ⟨magnitude, limited, bits⟩
  have positive : Sign.positive.toBitVec.toNat = 0 := rfl
  rw [IsNonnegative, bits, positive, Nat.zero_mul, Nat.zero_add]
  exact limited

theorem hasSign_unpack {number : Float} (defined : isUndefined number = false) :
    HasSign (signOf (isNegative number)) number.toModel.unpack := by
  rw [isUndefined, decide_eq_false_iff_not] at defined
  rw [unpack_eq, parts, if_neg defined]
  split
  · exact .infinity
  · split
    all_goals
      rw [Parts.unpacked]
      split
      · exact .finite ..
      · exact .zero

theorem IsNonnegative.hasSign {number : Float} (nonnegative : IsNonnegative number) :
    HasSign .positive number.toModel.unpack := by
  rcases isNonnegative_iff.mp nonnegative with ⟨positive, defined⟩
  have signed := hasSign_unpack defined
  rw [positive] at signed
  exact signed

/-! ## Signs of results -/

theorem hasSign_roundWithAccuracy (sign : Sign) (mantissa : Nat) (exponent : Int)
    (accuracy : Accuracy) :
    HasSign sign (roundWithAccuracy Format.binary64 sign mantissa exponent accuracy) := by
  unfold roundWithAccuracy
  dsimp only
  split
  · exact .zero
  · exact .finite ..

theorem hasSign_normalize {mantissa : Int} (nonnegative : 0 ≤ mantissa) (exponent : Int) :
    HasSign .positive (normalize Format.binary64 mantissa exponent .positive) := by
  unfold UnpackedFloat.normalize
  split
  · next less =>
      have below : mantissa < 0 := Int.compare_eq_lt.mp less
      omega
  · exact .zero
  · exact hasSign_roundWithAccuracy ..

theorem exists_hasSign_normalize (mantissa exponent : Int) :
    ∃ sign, HasSign sign (normalize Format.binary64 mantissa exponent .positive) := by
  unfold UnpackedFloat.normalize
  split
  · exact ⟨_, hasSign_roundWithAccuracy ..⟩
  · exact ⟨_, .zero⟩
  · exact ⟨_, hasSign_roundWithAccuracy ..⟩

theorem HasSign.add {left right : UnpackedFloat} (leftSigned : HasSign .positive left)
    (rightSigned : HasSign .positive right) :
    HasSign .positive (UnpackedFloat.add Format.binary64 left right) := by
  cases leftSigned with
  | infinity => cases rightSigned <;> exact .infinity
  | zero =>
      cases rightSigned with
      | infinity => exact .infinity
      | zero => exact .zero
      | finite mantissa exponent some => exact .finite ..
  | finite mantissa exponent some =>
      cases rightSigned with
      | infinity => exact .infinity
      | zero => exact .finite ..
      | finite otherMantissa otherExponent someOther =>
          apply hasSign_normalize
          exact Int.add_nonneg (Int.natCast_nonneg _) (Int.natCast_nonneg _)

theorem HasSign.abs {sign : Sign} {number : UnpackedFloat} (signed : HasSign sign number) :
    HasSign .positive number.abs := by
  cases signed with
  | infinity => exact .infinity
  | zero => exact .zero
  | finite mantissa exponent some => exact .finite ..

theorem HasSign.div {left right : UnpackedFloat} (leftSigned : HasSign .positive left)
    {mantissa : Nat} {exponent : Int} {some : 0 < mantissa}
    (divisor : right = .finite .positive mantissa exponent some) :
    HasSign .positive (UnpackedFloat.div Format.binary64 left right) := by
  subst divisor
  cases leftSigned with
  | infinity => exact .infinity
  | zero => exact .zero
  | finite otherMantissa otherExponent someOther => exact hasSign_roundWithAccuracy ..

theorem IsNonnegative.add {left right : Float} (leftNonnegative : IsNonnegative left)
    (rightNonnegative : IsNonnegative right) : IsNonnegative (left + right) :=
  isNonnegative_packed (leftNonnegative.hasSign.add rightNonnegative.hasSign)

theorem isNonnegative_abs {number : Float} (defined : isUndefined number = false) :
    IsNonnegative number.abs :=
  isNonnegative_packed (hasSign_unpack defined).abs

/-! ## Finite doubles -/

def IsFinite (number : Float) : Prop :=
  magnitudeBits number < infinityBits

/-- The significand of a finite double. -/
def significand (number : Float) : Nat :=
  if magnitudeBits number / leadingBit = 0 then magnitudeBits number % leadingBit
  else magnitudeBits number % leadingBit + leadingBit

/-- The exponent of a finite double. -/
def exponent (number : Float) : Int :=
  if magnitudeBits number / leadingBit = 0 then leastExponent
  else leastExponent + ((magnitudeBits number / leadingBit : Nat) - 1)

theorem IsFinite.parts_eq {number : Float} (finite : IsFinite number) :
    parts number = .finite (isNegative number) (significand number) (exponent number) := by
  rw [parts, if_neg (Nat.lt_asymm finite), if_neg (Nat.ne_of_lt finite), significand, exponent]
  split <;> rfl

theorem IsFinite.unpack_eq {number : Float} (finite : IsFinite number) :
    number.toModel.unpack = (Parts.finite (isNegative number) (significand number)
      (exponent number)).unpacked := by
  rw [Binary64.unpack_eq, finite.parts_eq]

theorem significand_eq_zero_iff {number : Float} :
    significand number = 0 ↔ magnitudeBits number = 0 := by
  unfold significand leadingBit
  split <;> omega

/-- A double with a larger magnitude has no smaller exponent, and even at the smaller of the two
exponents a larger significand. -/
theorem significand_lt {smaller larger : Float}
    (ordered : magnitudeBits smaller < magnitudeBits larger) :
    exponent smaller ≤ exponent larger ∧
      significand smaller < significand larger * 2 ^ (exponent larger - exponent smaller).toNat := by
  have biased : magnitudeBits smaller / leadingBit ≤ magnitudeBits larger / leadingBit :=
    Nat.div_le_div_right (Nat.le_of_lt ordered)
  have smallerWhole := Nat.div_add_mod (magnitudeBits smaller) leadingBit
  have largerWhole := Nat.div_add_mod (magnitudeBits larger) leadingBit
  have smallerFraction : magnitudeBits smaller % leadingBit < leadingBit :=
    Nat.mod_lt _ (by decide)
  have largerFraction : magnitudeBits larger % leadingBit < leadingBit := Nat.mod_lt _ (by decide)
  unfold exponent significand
  generalize magnitudeBits smaller / leadingBit = low at *
  generalize magnitudeBits larger / leadingBit = high at *
  rcases Nat.eq_or_lt_of_le biased with rfl | below
  · refine ⟨le_rfl, ?_⟩
    rw [Int.sub_self, Int.toNat_zero, Nat.pow_zero, Nat.mul_one]
    split <;> omega
  · rw [if_neg (show ¬ high = 0 by omega), if_neg (show ¬ high = 0 by omega)]
    by_cases lowest : low = 0
    · rw [if_pos lowest, if_pos lowest]
      refine ⟨by omega, ?_⟩
      calc magnitudeBits smaller % leadingBit
        _ < magnitudeBits larger % leadingBit + leadingBit := by omega
        _ ≤ _ := Nat.le_mul_of_pos_right _ (Nat.two_pow_pos _)
    · rw [if_neg lowest, if_neg lowest]
      refine ⟨by omega, ?_⟩
      have shift : 1 ≤ (leastExponent + ((high : Int) - 1) -
          (leastExponent + ((low : Int) - 1))).toNat := by omega
      calc magnitudeBits smaller % leadingBit + leadingBit
        _ < (magnitudeBits larger % leadingBit + leadingBit) * 2 ^ 1 := by omega
        _ ≤ _ := Nat.mul_le_mul_left _ (Nat.pow_le_pow_right (by decide) shift)

theorem significand_le {smaller larger : Float}
    (ordered : magnitudeBits smaller ≤ magnitudeBits larger) :
    exponent smaller ≤ exponent larger ∧
      significand smaller ≤ significand larger * 2 ^ (exponent larger - exponent smaller).toNat := by
  rcases Nat.eq_or_lt_of_le ordered with equal | less
  · simp [exponent, significand, equal]
  · rcases significand_lt less with ⟨exponents, significands⟩
    exact ⟨exponents, significands.le⟩

/-- The difference of finite doubles is defined. -/
theorem IsFinite.exists_hasSign_sub {left right : Float} (leftFinite : IsFinite left)
    (rightFinite : IsFinite right) :
    ∃ sign, HasSign sign (UnpackedFloat.sub Format.binary64 left.toModel.unpack
      right.toModel.unpack) := by
  rw [leftFinite.unpack_eq, rightFinite.unpack_eq, Parts.unpacked, Parts.unpacked]
  split
  · split
    · exact exists_hasSign_normalize ..
    · exact ⟨_, .finite ..⟩
  · split
    · exact ⟨_, .finite ..⟩
    · unfold UnpackedFloat.sub
      dsimp only
      split
      · exact ⟨_, .zero⟩
      · exact ⟨_, .zero⟩

theorem IsFinite.isUndefined_sub {left right : Float} (leftFinite : IsFinite left)
    (rightFinite : IsFinite right) : isUndefined (left - right) = false := by
  rcases leftFinite.exists_hasSign_sub rightFinite with ⟨sign, signed⟩
  exact isUndefined_packed signed

/-- The difference to a finite double that is no larger is not negative. -/
theorem IsFinite.isNonnegative_sub {left right : Float} (leftFinite : IsFinite left)
    (rightFinite : IsFinite right) (leftPositive : isNegative left = false)
    (rightPositive : isNegative right = false)
    (ordered : magnitudeBits right ≤ magnitudeBits left) : IsNonnegative (left - right) := by
  rcases significand_le ordered with ⟨exponents, significands⟩
  suffices signed : HasSign .positive (UnpackedFloat.sub Format.binary64 left.toModel.unpack
      right.toModel.unpack) from isNonnegative_packed signed
  rw [leftFinite.unpack_eq, rightFinite.unpack_eq, leftPositive, rightPositive, Parts.unpacked,
    Parts.unpacked]
  split
  · split
    · apply hasSign_normalize
      simp only [Int.min_eq_right exponents, Int.sub_self, Int.toNat_zero, Nat.shiftLeft_eq,
        Nat.pow_zero, Nat.mul_one]
      exact Int.sub_nonneg_of_le (Int.ofNat_le.mpr significands)
    · exact .finite ..
  · next none =>
      have noneRight : ¬ 0 < significand right := by
        have zero := significand_eq_zero_iff.mp (Nat.eq_zero_of_not_pos none)
        rw [significand_eq_zero_iff.mpr (by omega)]
        exact Nat.lt_irrefl 0
      rw [dif_neg noneRight]
      exact .zero

/-- The absolute difference of a finite double from itself is zero. -/
theorem IsFinite.abs_sub_self {number : Float} (finite : IsFinite number) :
    (number - number).abs = 0 := by
  have none : UnpackedFloat.sub Format.binary64 number.toModel.unpack number.toModel.unpack =
      .zero .positive := by
    rw [finite.unpack_eq, Parts.unpacked]
    split
    · unfold UnpackedFloat.sub
      simp only [Int.sub_self]
      rfl
    · cases isNegative number <;> rfl
  have difference : number - number = packed (.zero .positive) := congrArg packed none
  rw [difference]
  decide

end Binary64

end CurveNeighbors
