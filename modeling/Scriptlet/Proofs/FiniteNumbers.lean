import Mathlib
import Scriptlet.Proofs.Numerals

/-! Numbers that stay finite: what is left of a finite number without its sign, and whole numbers of no
more than 64 bits, rounded. -/
namespace Scriptlet.Binary64

open Float.Model Float.Model.UnpackedFloat

theorem pack_below {mantissa : Nat} {exponent : Int} (positive : 0 < mantissa) (small : exponent ≤ 971) :
    (UnpackedFloat.pack Format.binary64 (.finite .positive mantissa exponent positive)).toNat <
      infiniteBits := by
  have biased : (exponent + Format.binary64.exponentBias +
      Format.binary64.mantissaBitsWithoutImplicit).toNat ≤ 2046 := by
    simp [Format.exponentBias]
    omega
  simp only [UnpackedFloat.pack]
  generalize (exponent + Format.binary64.exponentBias +
    Format.binary64.mantissaBitsWithoutImplicit).toNat = field at biased
  have bounded : ¬ 2 ^ Format.binary64.exponentBits ≤ field + 1 := by
    simp
    omega
  have fraction := (BitVec.ofNat 52 mantissa).isLt
  rw [if_neg bounded]
  unfold infiniteBits
  split
  · rw [components_toNat, BitVec.toNat_ofNat]
    have := Nat.mod_le field (2 ^ 11)
    omega
  · rw [components_toNat]
    simp
    omega

/-! Rounding does not raise the exponent far. -/

theorem shift_mantissa (extended : ExtendedMantissa) (shift : Nat) :
    (extended >>> shift).mantissa = extended.mantissa / 2 ^ shift := by
  induction shift with
  | zero => exact (Nat.div_one _).symm
  | succ shift ih =>
    change (extended >>> shift).mantissa / 2 = _
    rw [ih, Nat.div_div_eq_div_mul, Nat.pow_succ]

theorem rounded_le (extended : ExtendedMantissa) :
    extended.roundedMantissa ≤ extended.mantissa + 1 := by
  simp only [ExtendedMantissa.roundedMantissa, Accuracy.roundToNearestEven]
  split <;> omega

theorem shifted_exponent {mantissa : Nat} {exponent bound : Int} (accuracy : Accuracy)
    (low : exponent ≤ bound) (short : mantissa.log2 + 1 + exponent - 53 ≤ bound)
    (least : -1074 ≤ bound) :
    (shiftToTargetExponent Format.binary64 mantissa exponent accuracy).2 ≤ bound := by
  simp only [shiftToTargetExponent, shiftToExponent, target_eq, totalExponent]
  omega

theorem shifted_mantissa (mantissa : Nat) (exponent : Int) (accuracy : Accuracy) :
    (shiftToTargetExponent Format.binary64 mantissa exponent accuracy).1.mantissa ≤ mantissa := by
  simp only [shiftToTargetExponent, shiftToExponent, shift_mantissa]
  refine Nat.le_trans (Nat.div_le_self _ _) ?_
  unfold ExtendedMantissa.ofMantissaAndAccuracy
  split <;> exact Nat.le_refl _

theorem log2_le {value : Nat} (bounded : value ≤ 2 ^ 200) : value.log2 ≤ 200 := by
  by_cases zero : value = 0
  · rw [zero]
    decide
  · have below := (Nat.log2_lt zero).mpr (Nat.lt_of_le_of_lt bounded (by decide : 2 ^ 200 < 2 ^ 201))
    omega

theorem round_below {mantissa : Nat} {exponent : Int} (accuracy : Accuracy)
    (short : mantissa < 2 ^ 200) (low : exponent ≤ 0) :
    (UnpackedFloat.pack Format.binary64
      (roundWithAccuracy Format.binary64 .positive mantissa exponent accuracy)).toNat < infiniteBits := by
  have length := log2_le (Nat.le_of_lt short)
  have once : (shiftToTargetExponent Format.binary64 mantissa exponent accuracy).2 ≤ 200 :=
    shifted_exponent accuracy (by omega) (by omega) (by decide)
  have smaller := shifted_mantissa mantissa exponent accuracy
  simp only [roundWithAccuracy]
  generalize shiftToTargetExponent Format.binary64 mantissa exponent accuracy = shifted at once smaller
  have carried := log2_le (Nat.le_trans (rounded_le shifted.1) (by omega))
  have twice : (shiftToTargetExponent Format.binary64 shifted.1.roundedMantissa shifted.2 .exact).2 ≤ 971 :=
    shifted_exponent .exact (by omega) (by omega) (by decide)
  split
  · decide
  · exact pack_below _ twice

/-! Numbers without their sign. -/

theorem unpack_exponent {bits : BitVec 64} {sign : Sign} {mantissa : Nat} {exponent : Int}
    {positive : 0 < mantissa}
    (finite : UnpackedFloat.unpack Format.binary64 bits = .finite sign mantissa exponent positive) :
    exponent ≤ 971 := by
  have bias : (Format.binary64.exponentBias : Int) + Format.binary64.mantissaBitsWithoutImplicit = 1075 := by
    simp [Format.exponentBias]
  simp only [UnpackedFloat.unpack, bias] at finite
  generalize @unpackExponent Format.binary64 bits = field at finite
  split at finite
  · split at finite <;> cases finite
  · next notFull =>
    have below : field.toNat ≤ 2046 := by
      have least := field.isLt
      have other : field.toNat ≠ 2047 := fun full => notFull (BitVec.eq_of_toNat_eq full)
      have size : 2 ^ Format.binary64.exponentBits = 2048 := rfl
      omega
    split at finite
    · next lowest =>
      have zero : field.toNat = 0 := by
        rw [lowest]
        rfl
      split at finite
      · cases finite
      · cases finite
        omega
    · cases finite
      omega

theorem abs_magnitude {x : Float} (number : x.isNaN = false) (finite : x.isInf = false) :
    Magnitude x.abs := by
  have shape : Magnitude x.abs = ((UnpackedFloat.pack Format.binary64
      (UnpackedFloat.unpack Format.binary64 x.toModel.toBits.toBitVec).abs).toNat < infiniteBits) := rfl
  have number : (UnpackedFloat.unpack Format.binary64 x.toModel.toBits.toBitVec).isNaN = false := number
  have finite : (UnpackedFloat.unpack Format.binary64 x.toModel.toBits.toBitVec).isInf = false := finite
  rw [shape]
  cases unpacked : UnpackedFloat.unpack Format.binary64 x.toModel.toBits.toBitVec with
  | infinity sign =>
    rw [unpacked] at finite
    cases finite
  | notANumber =>
    rw [unpacked] at number
    cases number
  | zero sign =>
    show (UnpackedFloat.pack Format.binary64 (.zero .positive)).toNat < infiniteBits
    decide
  | finite sign mantissa exponent positive => exact pack_below positive (unpack_exponent unpacked)

end Scriptlet.Binary64

namespace Scriptlet.Decimal

open Binary64 Float.Model Float.Model.UnpackedFloat

theorem canonical_whole {whole : Nat} (some : 0 < whole) (small : whole < 2 ^ 53) :
    ∃ mantissa exponent, Canonical mantissa exponent ∧ exponent ≤ 0 ∧
      Binary64.value mantissa exponent = whole := by
  have length : whole.log2 < 53 := (Nat.log2_lt (Nat.ne_of_gt some)).mpr small
  have low := Nat.log2_self_le (Nat.ne_of_gt some)
  have high := Nat.lt_log2_self (n := whole)
  obtain ⟨shift, sum⟩ : ∃ shift, whole.log2 + shift = 52 := ⟨52 - whole.log2, by omega⟩
  have positive : 0 < whole * 2 ^ shift := Nat.mul_pos some (Nat.two_pow_pos shift)
  have full : (whole * 2 ^ shift).log2 = 52 := by
    rw [Nat.log2_eq_iff (Nat.ne_of_gt positive), ← sum, Nat.pow_add, Nat.add_right_comm, Nat.pow_add]
    exact ⟨Nat.mul_le_mul_right _ low, Nat.mul_lt_mul_of_pos_right high (Nat.two_pow_pos shift)⟩
  refine ⟨whole * 2 ^ shift, -(shift : Int), canonical_iff.mpr ⟨positive, .inl ⟨full, ?_⟩⟩, ?_, ?_⟩
  · omega
  · omega
  · rw [← value_add, Int.add_left_neg, value_zero]

/-- A whole number too long to be held is scaled up by 53 bits and rounded. -/
theorem nearest_rounds {digits : Nat} (large : 2 ^ 53 ≤ digits) (short : digits < 2 ^ 64) :
    nearest ⟨digits, 0⟩ =
      .ofModel (pack (roundWithAccuracy Format.binary64 .positive (digits * 2 ^ 53) (-53) .exact)) := by
  have slow : ¬ (digits < 2 ^ 53 ∧ 0 ≤ 22) := fun both => Nat.not_lt_of_le large both.1
  have times : Sign.positive * Sign.positive = Sign.positive := rfl
  have bits : Format.binary64.mantissaBits = 53 := rfl
  unfold nearest Float.ofScientific
  rw [dif_neg slow]
  refine congrArg Float.ofModel (congrArg pack ?_)
  show UnpackedFloat.ofScientific Format.binary64 digits 0 = _
  simp only [UnpackedFloat.ofScientific]
  rw [dif_neg (by omega), if_neg (by omega), if_neg (by omega), if_pos (Int.le_refl 0)]
  simp only [UnpackedFloat.mul, times, bits, Nat.shiftLeft_eq, Int.toNat_zero, pow_zero, Nat.mul_one,
    Int.add_zero]
  rfl

theorem nearest_whole {digits : Nat} (short : digits < 2 ^ 64) : Magnitude (nearest ⟨digits, 0⟩) := by
  rcases Nat.eq_zero_or_pos digits with rfl | some
  · show (nearest ⟨0, 0⟩).toBits.toNat < infiniteBits
    decide
  by_cases small : digits < 2 ^ 53
  · obtain ⟨mantissa, exponent, canonical, low, same⟩ := canonical_whole some small
    have held : (⟨digits, 0⟩ : Decimal).value = Binary64.value mantissa exponent := by
      rw [same, value, pow_zero, div_one]
    rw [nearest_exact canonical held]
    exact pack_below canonical.positive (by omega)
  · rw [nearest_rounds (Nat.le_of_not_lt small) short]
    exact round_below .exact (by omega) (by decide)

end Scriptlet.Decimal
