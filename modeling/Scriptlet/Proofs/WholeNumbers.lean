import Mathlib
import Scriptlet.Proofs.JsonNumbers

/-! Whole numbers that are read as floating-point numbers. Each number below `2 ^ 53` has a floating-point
number of its own and is found again; from there on the nearest floating-point number stays one, and what is
shown of it is its shortest decimal. -/
namespace Scriptlet.Binary64

open Float.Model Float.Model.UnpackedFloat

/-! Rounding fills the mantissa. -/

theorem le_rounded (extended : ExtendedMantissa) :
    extended.mantissa ≤ extended.roundedMantissa := by
  simp only [ExtendedMantissa.roundedMantissa, Accuracy.roundToNearestEven]
  split <;> omega

theorem ne_zero_of_long {mantissa : Nat} (long : 52 ≤ mantissa.log2) : mantissa ≠ 0 := by
  rintro rfl
  exact absurd long (by decide)

theorem log2_shifted {mantissa : Nat} (long : 52 ≤ mantissa.log2) :
    (mantissa / 2 ^ (mantissa.log2 - 52)).log2 = 52 := by
  have low := Nat.log2_self_le (ne_zero_of_long long)
  have high := Nat.lt_log2_self (n := mantissa)
  obtain ⟨shift, sum⟩ := Nat.exists_eq_add_of_le long
  rw [sum] at low high
  have least : 2 ^ 52 ≤ mantissa / 2 ^ shift := by
    rw [Nat.le_div_iff_mul_le (Nat.two_pow_pos shift), ← Nat.pow_add]
    exact low
  have most : mantissa / 2 ^ shift < 2 ^ 53 := by
    rw [Nat.div_lt_iff_lt_mul (Nat.two_pow_pos shift), ← Nat.pow_add]
    exact Nat.lt_of_lt_of_eq high (congrArg _ (by omega))
  rw [sum, Nat.add_sub_cancel_left, Nat.log2_eq_iff (by omega)]
  exact ⟨least, most⟩

theorem shiftToTarget_full {mantissa : Nat} {exponent : Int} (long : 52 ≤ mantissa.log2)
    (high : -1074 ≤ exponent) :
    (shiftToTargetExponent Format.binary64 mantissa exponent .exact).1.mantissa.log2 = 52 ∧
      (shiftToTargetExponent Format.binary64 mantissa exponent .exact).2 =
        exponent + (mantissa.log2 - 52 : Nat) := by
  have amount : (Format.binary64.targetExponent (totalExponent mantissa exponent) - exponent).toNat =
      mantissa.log2 - 52 := by
    rw [target_eq, totalExponent]
    omega
  simp only [shiftToTargetExponent, shiftToExponent, amount, shift_mantissa,
    ExtendedMantissa.ofMantissaAndAccuracy]
  exact ⟨log2_shifted long, trivial⟩

/-- What is rounded to a full mantissa has one, whether or not rounding carries over. -/
theorem round_full {mantissa : Nat} {exponent : Int} (long : 52 ≤ mantissa.log2)
    (high : -1074 ≤ exponent) : ∃ rounded final positive,
      roundWithAccuracy Format.binary64 .positive mantissa exponent .exact =
        .finite .positive rounded final positive ∧
      rounded.log2 = 52 ∧ exponent + (mantissa.log2 - 52 : Nat) ≤ final := by
  obtain ⟨full, once⟩ := shiftToTarget_full long high
  simp only [roundWithAccuracy]
  generalize shiftToTargetExponent Format.binary64 mantissa exponent .exact = shifted at full once
  have carried : 52 ≤ shifted.1.roundedMantissa.log2 := by
    have least : 2 ^ 52 ≤ shifted.1.mantissa := (Nat.le_log2 (ne_zero_of_long full.ge)).mp full.ge
    have more := Nat.le_trans least (le_rounded shifted.1)
    exact (Nat.le_log2 (by omega)).mpr more
  obtain ⟨fullAgain, twice⟩ := shiftToTarget_full carried (show -1074 ≤ shifted.2 by omega)
  generalize shiftToTargetExponent Format.binary64 shifted.1.roundedMantissa shifted.2 .exact = final
    at fullAgain twice
  have nonzero : final.1.mantissa ≠ 0 := ne_zero_of_long fullAgain.ge
  rw [dif_neg nonzero]
  exact ⟨_, _, Nat.pos_of_ne_zero nonzero, rfl, fullAgain, by omega⟩

/-- The bits of `2 ^ 53`: from there on all numbers are whole. -/
def wholeBits : Nat := 1076 * 2 ^ 52

theorem pack_full {mantissa : Nat} {exponent : Int} (positive : 0 < mantissa)
    (full : mantissa.log2 = 52) (high : 1 ≤ exponent) :
    wholeBits ≤
      (UnpackedFloat.pack Format.binary64 (.finite .positive mantissa exponent positive)).toNat := by
  have top : (packedInfinity Format.binary64 .positive).toNat = infiniteBits := by decide
  have biased : 1076 ≤ (exponent + Format.binary64.exponentBias +
      Format.binary64.mantissaBitsWithoutImplicit).toNat := by
    simp [Format.exponentBias]
    omega
  simp only [UnpackedFloat.pack]
  generalize (exponent + Format.binary64.exponentBias +
    Format.binary64.mantissaBitsWithoutImplicit).toNat = field at biased
  unfold wholeBits
  split
  · rw [top, infiniteBits]
    omega
  · next bounded =>
    have bits : mantissa.log2 + 1 = Format.binary64.mantissaBits := by
      rw [full]
      rfl
    have below : field < 2 ^ 11 := by
      simp only [Nat.not_le] at bounded
      exact Nat.lt_of_succ_lt bounded
    rw [if_pos bits, components_toNat, BitVec.toNat_ofNat]
    have same : field % 2 ^ Format.binary64.exponentBits = field := Nat.mod_eq_of_lt below
    rw [same]
    omega

/-! A sign changes nothing else. -/

theorem components_negative (field : BitVec 11) (fraction : BitVec 52) :
    (packComponents Format.binary64 .negative field fraction).toNat =
      2 ^ 63 + (packComponents Format.binary64 .positive field fraction).toNat := by
  have small := fraction.isLt
  have less := field.isLt
  have one : (Sign.negative.toBitVec ++ field).toNat = 2 ^ 11 + field.toNat := by
    rw [Sign.toBitVec, BitVec.toNat_append, ← Nat.shiftLeft_add_eq_or_of_lt less, Nat.shiftLeft_eq]
    simp
  rw [components_toNat, packComponents, BitVec.toNat_append, one,
    ← Nat.shiftLeft_add_eq_or_of_lt small, Nat.shiftLeft_eq]
  omega

theorem pack_negative {mantissa : Nat} (exponent : Int) (positive : 0 < mantissa) :
    (UnpackedFloat.pack Format.binary64 (.finite .negative mantissa exponent positive)).toNat =
      2 ^ 63 +
        (UnpackedFloat.pack Format.binary64 (.finite .positive mantissa exponent positive)).toNat := by
  simp only [UnpackedFloat.pack]
  split
  · exact components_negative _ _
  · split
    · exact components_negative _ _
    · exact components_negative _ _

theorem unpack_abs {first second : BitVec 64} (same : first.toNat % 2 ^ 63 = second.toNat % 2 ^ 63) :
    (UnpackedFloat.unpack Format.binary64 first).abs =
      (UnpackedFloat.unpack Format.binary64 second).abs := by
  have fraction : @unpackMantissa Format.binary64 first = @unpackMantissa Format.binary64 second := by
    apply BitVec.eq_of_toNat_eq
    rw [fraction_toNat, fraction_toNat]
    omega
  have field : @unpackExponent Format.binary64 first = @unpackExponent Format.binary64 second := by
    apply BitVec.eq_of_toNat_eq
    rw [field_toNat, field_toNat]
    omega
  simp only [UnpackedFloat.unpack, fraction, field]
  split
  · split <;> rfl
  · split
    · split <;> rfl
    · rfl

def withSign (value : Int) (x : Float) : Float := if value < 0 then x.neg else x

namespace Magnitude

variable {x : Float} (magnitude : Magnitude x)

include magnitude

theorem neg_bits : x.neg.toBits.toNat = 2 ^ 63 + x.toBits.toNat := by
  by_cases zero : x.toBits.toNat = 0
  · obtain rfl : x = 0 := eq_of_toBits zero
    decide
  · have positive := (mantissaOf_canonical zero).positive
    have unpacked := unpack_finite _ zero magnitude
    have negated : x.neg = .ofModel (pack (.finite .negative (mantissaOf x.toBits.toNat)
        (exponentOf x.toBits.toNat - 1075) positive)) :=
      congrArg Float.ofModel (congrArg pack (congrArg UnpackedFloat.neg unpacked))
    rw [negated]
    refine (pack_negative _ positive).trans ?_
    rw [pack_finite zero magnitude positive]

theorem signed_bits (value : Int) :
    (withSign value x).toBits.toNat % 2 ^ 63 = x.toBits.toNat % 2 ^ 63 := by
  unfold withSign
  split
  · rw [magnitude.neg_bits, Nat.add_mod_left]
  · rfl

theorem signed_ratio (value : Int) : Decimal.ratio (withSign value x) = Decimal.ratio x := by
  have same : (withSign value x).toBits.toNat % Nat.pow 2 63 = x.toBits.toNat % Nat.pow 2 63 :=
    magnitude.signed_bits value
  simp only [Decimal.ratio, same]

theorem signed_isNegative (value : Int) :
    Scriptlet.isNegative (withSign value x) = decide (value < 0) := by
  unfold withSign
  split
  · next negative => simp [Scriptlet.isNegative, magnitude.neg_bits, negative]
  · next positive => rw [magnitude.isNegative, decide_eq_false positive]

theorem signed_unpack (value : Int) :
    (withSign value x).toModel.unpack.abs = x.toModel.unpack.abs :=
  unpack_abs (magnitude.signed_bits value)

theorem signed_abs (value : Int) : (withSign value x).abs = x := by
  have same : (withSign value x).abs = x.abs :=
    congrArg Float.ofModel (congrArg pack (magnitude.signed_unpack value))
  rw [same, magnitude.abs]

theorem signed_isNaN (value : Int) : (withSign value x).isNaN = false := by
  have keeps (number : UnpackedFloat) : number.abs.isNaN = number.isNaN := by
    cases number <;> rfl
  have same := congrArg UnpackedFloat.isNaN (magnitude.signed_unpack value)
  rw [keeps, keeps] at same
  exact same.trans magnitude.isNaN

theorem signed_isInf (value : Int) : (withSign value x).isInf = false := by
  have keeps (number : UnpackedFloat) : number.abs.isInf = number.isInf := by
    cases number <;> rfl
  have same := congrArg UnpackedFloat.isInf (magnitude.signed_unpack value)
  rw [keeps, keeps] at same
  exact same.trans magnitude.isInf

end Magnitude

end Scriptlet.Binary64

namespace Scriptlet.Decimal

open Binary64 Float.Model Float.Model.UnpackedFloat

theorem nearest_large {digits : Nat} (large : 2 ^ 53 ≤ digits) (short : digits < 2 ^ 64) :
    wholeBits ≤ (nearest ⟨digits, 0⟩).toBits.toNat := by
  have bits : (digits * 2 ^ 53).log2 = digits.log2 + 53 := by
    rw [Nat.log2_eq_iff (by omega), Nat.pow_add, Nat.add_right_comm, Nat.pow_add]
    constructor
    · exact Nat.mul_le_mul_right _ (Nat.log2_self_le (by omega))
    · exact Nat.mul_lt_mul_of_pos_right Nat.lt_log2_self (by decide)
  have long : 53 ≤ digits.log2 := (Nat.le_log2 (by omega)).mpr large
  obtain ⟨mantissa, exponent, positive, rounded, full, high⟩ :=
    round_full (show 52 ≤ (digits * 2 ^ 53).log2 by omega) (by decide : (-1074 : Int) ≤ -53)
  rw [nearest_rounds large short, rounded]
  exact pack_full positive full (by omega)

theorem ratio_large {x : Float} (magnitude : Magnitude x) (large : wholeBits ≤ x.toBits.toNat) :
    ∃ numerator shift, ratio x = (numerator, 2 ^ shift) ∧ 2 ^ 53 ≤ numerator / 2 ^ shift := by
  obtain ⟨numerator, shift, found, same⟩ := ratio_value magnitude
  refine ⟨numerator, shift, found, ?_⟩
  unfold wholeBits at large
  have mantissa : 2 ^ 52 ≤ mantissaOf x.toBits.toNat := by
    rw [mantissaOf, if_neg (by omega)]
    omega
  have exponent : (1 : Int) ≤ exponentOf x.toBits.toNat - 1075 := by
    rw [exponentOf, if_neg (by omega)]
    omega
  have least : (2 : ℚ) ^ 53 ≤ numerator / 2 ^ shift := by
    have front : (2 : ℚ) ^ 52 ≤ mantissaOf x.toBits.toNat := by exact_mod_cast mantissa
    have back : (2 : ℚ) ^ (1 : Int) ≤ 2 ^ ((exponentOf x.toBits.toNat : Int) - 1075) :=
      zpow_le_zpow_right₀ (by norm_num) exponent
    calc (2 : ℚ) ^ 53 = 2 ^ 52 * 2 ^ (1 : Int) := by norm_num
      _ ≤ Binary64.value (mantissaOf x.toBits.toNat) (exponentOf x.toBits.toNat - 1075) :=
        mul_le_mul front back (by positivity) (by positivity)
      _ = numerator / 2 ^ shift := same.symm
  rw [le_div_iff₀ (by positivity)] at least
  rw [Nat.le_div_iff_mul_le (Nat.two_pow_pos shift)]
  exact_mod_cast least

theorem nearest_value {whole : Nat} (small : whole < 2 ^ 53) :
    Binary64.value (mantissaOf (nearest ⟨whole, 0⟩).toBits.toNat)
      (exponentOf (nearest ⟨whole, 0⟩).toBits.toNat - 1075) = whole := by
  -- A whole number of at most 53 bits has a floating-point number of its own.
  rcases Nat.eq_zero_or_pos whole with rfl | some
  · have zero : mantissaOf (nearest ⟨0, 0⟩).toBits.toNat = 0 := by decide
    rw [zero, Binary64.value, Nat.cast_zero, zero_mul]
  · obtain ⟨mantissa, exponent, canonical, low, same⟩ := canonical_whole some small
    have held : (⟨whole, 0⟩ : Decimal).value = Binary64.value mantissa exponent := by
      rw [same, value, pow_zero, div_one]
    obtain ⟨bits, nonzero, finite, rfl, rfl⟩ := canonical_bits canonical (by omega)
    have packed : (nearest ⟨whole, 0⟩).toBits.toNat = bits := by
      rw [nearest_exact canonical held]
      exact pack_finite nonzero finite canonical.positive
    rw [packed, same]

theorem ratio_whole {whole : Nat} (small : whole < 2 ^ 53) :
    ∃ shift, ratio (nearest ⟨whole, 0⟩) = (whole * 2 ^ shift, 2 ^ shift) := by
  have magnitude : Magnitude (nearest ⟨whole, 0⟩) := nearest_whole (by omega)
  obtain ⟨numerator, shift, found, fraction⟩ := ratio_value magnitude
  rw [nearest_value small, div_eq_iff (by positivity)] at fraction
  have multiple : numerator = whole * 2 ^ shift := by exact_mod_cast fraction
  exact ⟨shift, by rw [found, multiple]⟩

/-! What a floating-point number is taken for. -/

theorem ofFloat_large {x : Float} (magnitude : Magnitude x) (large : wholeBits ≤ x.toBits.toNat)
    (value : Int) : Value.ofFloat (withSign value x) = .float (withSign value x) := by
  obtain ⟨numerator, shift, found, whole⟩ := ratio_large magnitude large
  have beyond : ¬ (numerator % 2 ^ shift = 0 ∧ numerator / 2 ^ shift < Nat.pow 2 53) :=
    fun both => Nat.not_lt_of_le whole both.2
  simp only [Value.ofFloat, magnitude.signed_ratio, found, magnitude.signed_isNaN, magnitude.signed_isInf,
    if_neg beyond, Bool.or_self, Bool.false_eq_true, if_false]

theorem ofFloat_whole {value : Int} (small : value.natAbs < 2 ^ 53) :
    Value.ofFloat (withSign value (nearest ⟨value.natAbs, 0⟩)) = .integer (Int64.ofInt value) := by
  have magnitude : Magnitude (nearest ⟨value.natAbs, 0⟩) := nearest_whole (by omega)
  obtain ⟨shift, found⟩ := ratio_whole small
  have quotient : value.natAbs * 2 ^ shift / 2 ^ shift = value.natAbs :=
    Nat.mul_div_cancel _ (Nat.two_pow_pos shift)
  have bounded : value.natAbs < Nat.pow 2 53 := small
  have signed : (if value < 0 then -(value.natAbs : Int) else value.natAbs) = value := by
    split <;> omega
  simp only [Value.ofFloat, magnitude.signed_ratio, found, magnitude.signed_isNaN, magnitude.signed_isInf,
    magnitude.signed_isNegative, Nat.mul_mod_left, quotient, bounded, Bool.or_self, Bool.false_eq_true,
    if_false, and_self, if_true, decide_eq_true_eq, signed]

theorem floatText_withSign {x : Float} (magnitude : Magnitude x) (value : Int) :
    (floatText (withSign value x)).toList = Json.signOf value ++ (shortest x).text.toList := by
  rw [floatText, magnitude.signed_isNaN, magnitude.signed_isInf, magnitude.signed_isNegative,
    magnitudeDecimal, magnitude.signed_abs, Json.signOf]
  by_cases negative : value < 0
  · simp [negative]
  · simp [negative]

/-! Which whole numbers are shown as they are. -/

theorem text_whole (digits : Nat) : (⟨digits, 0⟩ : Decimal).text = String.ofList (figures digits) := by
  have shown : 0 < (figures digits).length := Nat.length_toDigits_pos
  have parts : (⟨digits, 0⟩ : Decimal).parts = (figures digits, []) := by
    rw [Decimal.parts, show 0 + 1 - (figures digits).length = 0 by omega]
    simp
  rw [Decimal.text, parts]

theorem text_eq_figures (decimal : Decimal) (digits : Nat) :
    decimal.text = String.ofList (figures digits) ↔ decimal = ⟨digits, 0⟩ := by
  constructor
  · intro same
    obtain ⟨whole, fraction, numeral, shown, places, value, -⟩ := text_numeral decimal
    have texts : Numeral.text whole fraction = figures digits :=
      String.ofList_injective (shown.symm.trans same)
    cases fraction with
    | nil =>
      rw [Numeral.text_whole] at texts
      rw [List.append_nil, texts, valueOf_figures] at value
      obtain ⟨others, further⟩ := decimal
      simp_all
    | cons c rest =>
      have point : '.' ∈ figures digits := by
        rw [← texts]
        simp [Numeral.text]
      exact absurd (mem_figures _ point) (by decide)
  · rintro rfl
    exact text_whole digits

/-- A whole number is shown as it is once it has been read as a floating-point number. -/
def isKept (whole : Nat) : Bool := whole < 2 ^ 53 || shortest (nearest ⟨whole, 0⟩) == ⟨whole, 0⟩

end Scriptlet.Decimal
