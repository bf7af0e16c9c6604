import Mathlib
import Scriptlet.Decimal.Shortest

/-! Floating-point numbers as mantissas and exponents: their bits, and the operations on them where the
result is held exactly. -/
namespace Scriptlet.Binary64

open Float.Model Float.Model.UnpackedFloat

structure Canonical (mantissa : Nat) (exponent : Int) : Prop where
  positive : 0 < mantissa
  fits : Format.binary64.targetExponent (totalExponent mantissa exponent) = exponent

theorem target_eq (total : Int) : Format.binary64.targetExponent total = max (total - 53) (-1074) := by
  simp [Format.targetExponent, Format.mantissaBits, Format.minExponent]

theorem canonical_iff {mantissa : Nat} {exponent : Int} :
    Canonical mantissa exponent ↔ 0 < mantissa ∧
      (mantissa.log2 = 52 ∧ -1074 ≤ exponent ∨ mantissa.log2 < 52 ∧ exponent = -1074) := by
  have same : Canonical mantissa exponent ↔ 0 < mantissa ∧
      max (mantissa.log2 + 1 + exponent - 53) (-1074) = exponent := by
    constructor
    · rintro ⟨positive, fits⟩
      exact ⟨positive, (target_eq _).symm.trans fits⟩
    · rintro ⟨positive, fits⟩
      exact ⟨positive, (target_eq _).trans fits⟩
  rw [same]
  omega

def value (mantissa : Nat) (exponent : Int) : ℚ := mantissa * 2 ^ exponent

theorem value_zero (mantissa : Nat) : value mantissa 0 = mantissa := by
  simp [value]

theorem value_bounds {mantissa : Nat} (positive : 0 < mantissa) (exponent : Int) :
    (2 : ℚ) ^ (totalExponent mantissa exponent - 1) ≤ value mantissa exponent ∧
      value mantissa exponent < 2 ^ totalExponent mantissa exponent := by
  have low : (2 : ℚ) ^ mantissa.log2 ≤ mantissa := by
    exact_mod_cast Nat.log2_self_le (Nat.ne_of_gt positive)
  have high : (mantissa : ℚ) < 2 ^ (mantissa.log2 + 1) := by
    exact_mod_cast Nat.lt_log2_self
  have scale : (0 : ℚ) < 2 ^ exponent := zpow_pos (by norm_num) exponent
  have one : totalExponent mantissa exponent - 1 = (mantissa.log2 : Int) + exponent := by
    unfold totalExponent
    omega
  have all : totalExponent mantissa exponent = ((mantissa.log2 + 1 : Nat) : Int) + exponent := by
    unfold totalExponent
    omega
  rw [one, all, zpow_add₀ (by norm_num), zpow_add₀ (by norm_num), zpow_natCast, zpow_natCast, value]
  exact ⟨mul_le_mul_of_nonneg_right low scale.le, mul_lt_mul_of_pos_right high scale⟩

theorem value_pos {mantissa : Nat} (positive : 0 < mantissa) (exponent : Int) :
    0 < value mantissa exponent :=
  (zpow_pos (by norm_num) _).trans_le (value_bounds positive exponent).1

theorem value_add (mantissa : Nat) (exponent : Int) (shift : Nat) :
    value mantissa (exponent + shift) = value (mantissa * 2 ^ shift) exponent := by
  unfold value
  rw [zpow_add₀ (by norm_num), zpow_natCast]
  push_cast
  ring

theorem value_inj {first second : Nat} (exponent : Int)
    (same : value first exponent = value second exponent) : first = second := by
  have scale : (2 : ℚ) ^ exponent ≠ 0 := zpow_ne_zero _ (by norm_num)
  exact_mod_cast mul_right_cancel₀ scale same

theorem total_of_value {first second : Nat} {exponent other : Int} (positive : 0 < first)
    (positiveToo : 0 < second) (same : value first exponent = value second other) :
    totalExponent first exponent = totalExponent second other := by
  obtain ⟨low, high⟩ := value_bounds positive exponent
  obtain ⟨lowToo, highToo⟩ := value_bounds positiveToo other
  rw [same] at low high
  have one := (zpow_lt_zpow_iff_right₀ (by norm_num)).mp (low.trans_lt highToo)
  have two := (zpow_lt_zpow_iff_right₀ (by norm_num)).mp (lowToo.trans_lt high)
  omega

theorem canonical_least {mantissa : Nat} {exponent : Int} (canonical : Canonical mantissa exponent) :
    (2 : ℚ) ^ (-1074 : Int) ≤ value mantissa exponent := by
  refine le_trans ?_ (value_bounds canonical.positive exponent).1
  have shape := (canonical_iff.mp canonical).2
  refine zpow_le_zpow_right₀ (by norm_num) ?_
  unfold totalExponent
  omega

theorem whole_exponent {whole mantissa : Nat} {exponent : Int} (canonical : Canonical mantissa exponent)
    (some : 0 < whole) (same : (whole : ℚ) = value mantissa exponent) : -53 ≤ exponent := by
  have top := (value_bounds canonical.positive exponent).2
  have one : (2 : ℚ) ^ (0 : Int) ≤ whole := by
    rw [zpow_zero]
    exact_mod_cast some
  rw [← same] at top
  have order := (zpow_lt_zpow_iff_right₀ (by norm_num)).mp (one.trans_lt top)
  have fits := canonical.fits
  rw [target_eq] at fits
  omega

/-! Rounding and division where nothing is lost. -/

theorem shift_even (mantissa shift : Nat) :
    (⟨mantissa * 2 ^ shift, false, false⟩ : ExtendedMantissa) >>> shift = ⟨mantissa, false, false⟩ := by
  induction shift generalizing mantissa with
  | zero => simp [HShiftRight.hShiftRight, Nat.repeat]
  | succ shift ih =>
    have inner : (⟨mantissa * 2 ^ (shift + 1), false, false⟩ : ExtendedMantissa) >>> shift =
        ⟨mantissa * 2, false, false⟩ := by
      rw [Nat.pow_succ', ← Nat.mul_assoc]
      exact ih (mantissa * 2)
    -- The last step shifts out a zero; no bit was lost before it either.
    change ExtendedMantissa.shiftRightOne
      ((⟨mantissa * 2 ^ (shift + 1), false, false⟩ : ExtendedMantissa) >>> shift) = _
    rw [inner]
    simp [ExtendedMantissa.shiftRightOne]

theorem shiftToTarget_exact {mantissa long : Nat} {exponent lower : Int}
    (canonical : Canonical mantissa exponent) (below : lower ≤ exponent)
    (same : value long lower = value mantissa exponent) :
    shiftToTargetExponent Format.binary64 long lower .exact = (⟨mantissa, false, false⟩, exponent) := by
  obtain ⟨shift, rfl⟩ : ∃ shift : Nat, exponent = lower + shift := ⟨(exponent - lower).toNat, by omega⟩
  have scaled : long = mantissa * 2 ^ shift := by
    rw [value_add] at same
    exact value_inj lower same
  have positive : 0 < long := scaled ▸ Nat.mul_pos canonical.positive (Nat.two_pow_pos shift)
  have target : Format.binary64.targetExponent (totalExponent long lower) = lower + shift := by
    rw [total_of_value positive canonical.positive same]
    exact canonical.fits
  have gap : (lower + shift - lower).toNat = shift := by omega
  simp only [shiftToTargetExponent, shiftToExponent, target, gap, ExtendedMantissa.ofMantissaAndAccuracy]
  rw [scaled, shift_even]

/-- A number that the format holds is rounded to itself. -/
theorem round_exact (sign : Sign) {mantissa long : Nat} {exponent lower : Int}
    (canonical : Canonical mantissa exponent) (below : lower ≤ exponent)
    (same : value long lower = value mantissa exponent) :
    roundWithAccuracy Format.binary64 sign long lower .exact =
      .finite sign mantissa exponent canonical.positive := by
  -- Rounding shifts again in case it carried over; here the second shift is by nothing.
  have rounded : (⟨mantissa, false, false⟩ : ExtendedMantissa).roundedMantissa = mantissa := rfl
  simp only [roundWithAccuracy, shiftToTarget_exact canonical below same, rounded,
    shiftToTarget_exact canonical (Int.le_refl _) rfl, Nat.ne_of_gt canonical.positive, dite_false]

theorem targetExponent_mono {first second : Int} (le : first ≤ second) :
    Format.binary64.targetExponent first ≤ Format.binary64.targetExponent second := by
  rw [target_eq, target_eq]
  omega

theorem total_of_quotient {first second mantissa : Nat} {early late exponent : Int}
    (positive : 0 < first) (positiveToo : 0 < second) (quotient : 0 < mantissa)
    (same : value first early = value mantissa exponent * value second late) :
    totalExponent first early - totalExponent second late ≤ totalExponent mantissa exponent := by
  obtain ⟨low, -⟩ := value_bounds positive early
  obtain ⟨-, high⟩ := value_bounds positiveToo late
  obtain ⟨-, top⟩ := value_bounds quotient exponent
  have bound : (2 : ℚ) ^ (totalExponent first early - 1) <
      2 ^ (totalExponent mantissa exponent + totalExponent second late) := by
    rw [zpow_add₀ (by norm_num)]
    calc (2 : ℚ) ^ (totalExponent first early - 1)
        ≤ value mantissa exponent * value second late := same ▸ low
      _ < 2 ^ totalExponent mantissa exponent * value second late :=
          mul_lt_mul_of_pos_right top (value_pos positiveToo late)
      _ < 2 ^ totalExponent mantissa exponent * 2 ^ totalExponent second late :=
          mul_lt_mul_of_pos_left high (zpow_pos (by norm_num) _)
  have order := (zpow_lt_zpow_iff_right₀ (by norm_num)).mp bound
  omega

theorem divCore_exact {first second mantissa : Nat} {early late exponent : Int} (positive : 0 < first)
    (positiveToo : 0 < second) (canonical : Canonical mantissa exponent)
    (same : value first early = value mantissa exponent * value second late) :
    ∃ quotient lower, divCore Format.binary64 first early second late = (quotient, lower, .exact) ∧
      lower ≤ exponent ∧ value quotient lower = value mantissa exponent := by
  -- A quotient that the format holds leaves no remainder: the division goes at least as deep as its
  -- exponent.
  have wide := total_of_quotient positive positiveToo canonical.positive same
  have target := targetExponent_mono wide
  rw [canonical.fits] at target
  generalize lowest : min (early - late) (Format.binary64.targetExponent
    (totalExponent first early - totalExponent second late)) = lower
  have below : lower ≤ exponent := by omega
  obtain ⟨shift, gap⟩ : ∃ shift : Nat, early - late = lower + shift :=
    ⟨(early - late - lower).toNat, by omega⟩
  obtain ⟨rise, reaches⟩ : ∃ rise : Nat, exponent = lower + rise := ⟨(exponent - lower).toNat, by omega⟩
  -- The dividend is a whole multiple of the divisor once both stand over the lower exponent.
  have multiple : first * 2 ^ shift = mantissa * 2 ^ rise * second := by
    apply value_inj lower
    have scale : (2 : ℚ) ^ late ≠ 0 := zpow_ne_zero _ (by norm_num)
    rw [← value_add, ← gap]
    have divided : value first (early - late) = value first early / 2 ^ late := by
      unfold value
      rw [zpow_sub₀ (by norm_num), mul_div_assoc]
    have factor : value (mantissa * 2 ^ rise * second) lower = value mantissa exponent * second := by
      rw [reaches, value_add]
      unfold value
      push_cast
      ring
    rw [divided, factor, same]
    unfold value
    field_simp
  refine ⟨mantissa * 2 ^ rise, lower, ?_, below, ?_⟩
  · have amount : (early - late - lower).toNat = shift := by omega
    simp only [divCore, lowest, amount, Nat.shiftLeft_eq, multiple, Nat.mul_mod_left,
      Nat.mul_div_cancel _ positiveToo, accuracyOfFraction, if_true]
  · rw [← value_add, reaches]

theorem div_exact (sign other : Sign) {first second mantissa : Nat} {early late exponent : Int}
    (positive : 0 < first) (positiveToo : 0 < second) (canonical : Canonical mantissa exponent)
    (same : value first early = value mantissa exponent * value second late) :
    UnpackedFloat.div Format.binary64 (.finite sign first early positive)
        (.finite other second late positiveToo) =
      .finite (sign / other) mantissa exponent canonical.positive := by
  obtain ⟨quotient, lower, found, below, stands⟩ := divCore_exact positive positiveToo canonical same
  simp only [UnpackedFloat.div, found, round_exact _ canonical below stands]

/-! The bits of a number without a sign are its exponent field and its fraction, and count up with it. -/

theorem components_toNat (field : BitVec 11) (fraction : BitVec 52) :
    (packComponents Format.binary64 .positive field fraction).toNat =
      field.toNat * 2 ^ 52 + fraction.toNat := by
  have small := fraction.isLt
  have zero : (Sign.positive.toBitVec ++ field).toNat = field.toNat := by
    rw [Sign.toBitVec, BitVec.toNat_append]
    simp
  rw [packComponents, BitVec.toNat_append, zero, ← Nat.shiftLeft_add_eq_or_of_lt small, Nat.shiftLeft_eq]

theorem fraction_toNat (bits : BitVec 64) :
    (@unpackMantissa Format.binary64 bits).toNat = bits.toNat % 2 ^ 52 := by
  simp [unpackMantissa]

theorem field_toNat (bits : BitVec 64) :
    (@unpackExponent Format.binary64 bits).toNat = bits.toNat / 2 ^ 52 % 2 ^ 11 := by
  simp [unpackExponent, Nat.shiftRight_eq_div_pow]

theorem sign_toNat (bits : BitVec 64) :
    (@unpackSign Format.binary64 bits).toNat = bits.toNat / 2 ^ 63 % 2 := by
  simp [unpackSign, Nat.shiftRight_eq_div_pow]

/-- The mantissa in the bits of a number without sign: one below the least normal number has no leading
bit of its own. -/
def mantissaOf (bits : Nat) : Nat :=
  if bits / 2 ^ 52 = 0 then bits % 2 ^ 52 else bits % 2 ^ 52 + 2 ^ 52

def exponentOf (bits : Nat) : Nat :=
  if bits / 2 ^ 52 = 0 then 1 else bits / 2 ^ 52

/-- The bits of the infinite number without sign; those of the finite numbers come before. -/
def infiniteBits : Nat := 2047 * 2 ^ 52

theorem log2_mantissaOf {bits : Nat} (some : bits ≠ 0) :
    (bits / 2 ^ 52 = 0 → (mantissaOf bits).log2 < 52) ∧
      (bits / 2 ^ 52 ≠ 0 → (mantissaOf bits).log2 = 52) := by
  unfold mantissaOf
  constructor
  · intro low
    rw [if_pos low, Nat.log2_lt (by omega)]
    omega
  · intro high
    rw [if_neg high, Nat.log2_eq_iff (by omega)]
    omega

theorem mantissaOf_canonical {bits : Nat} (some : bits ≠ 0) :
    Canonical (mantissaOf bits) (exponentOf bits - 1075) := by
  have logs := log2_mantissaOf some
  refine canonical_iff.mpr ⟨?_, ?_⟩
  · unfold mantissaOf
    split <;> omega
  · unfold exponentOf
    by_cases low : bits / 2 ^ 52 = 0
    · rw [if_pos low]
      exact .inr ⟨logs.1 low, by omega⟩
    · rw [if_neg low]
      exact .inl ⟨logs.2 low, by omega⟩

theorem sign_of_finite {bits : BitVec 64} (finite : bits.toNat < infiniteBits) :
    Sign.ofBitVec (@unpackSign Format.binary64 bits) = .positive := by
  unfold infiniteBits at finite
  have zero : @unpackSign Format.binary64 bits = 0#1 :=
    BitVec.eq_of_toNat_eq ((sign_toNat bits).trans (by simp; omega))
  rw [zero]
  rfl

theorem field_of_finite {bits : BitVec 64} (finite : bits.toNat < infiniteBits) :
    @unpackExponent Format.binary64 bits ≠ -1#11 := by
  unfold infiniteBits at finite
  intro full
  have same := (field_toNat bits).symm.trans (congrArg BitVec.toNat full)
  simp at same
  omega

theorem unpack_finite (bits : BitVec 64) (some : bits.toNat ≠ 0) (finite : bits.toNat < infiniteBits) :
    UnpackedFloat.unpack Format.binary64 bits = .finite .positive (mantissaOf bits.toNat)
      (exponentOf bits.toNat - 1075) (mantissaOf_canonical some).positive := by
  have fraction := fraction_toNat bits
  have field := field_toNat bits
  simp only [UnpackedFloat.unpack, sign_of_finite finite, if_neg (field_of_finite finite)]
  unfold infiniteBits at finite
  by_cases low : bits.toNat / 2 ^ 52 = 0
  · have lowest : @unpackExponent Format.binary64 bits = 0#11 :=
      BitVec.eq_of_toNat_eq (field.trans (by rw [low]; rfl))
    have nonzero : @unpackMantissa Format.binary64 bits ≠ 0#52 := by
      intro zero
      have same := fraction.symm.trans (congrArg BitVec.toNat zero)
      simp at same
      omega
    simp only [if_pos lowest, dif_neg nonzero]
    have mantissa : mantissaOf bits.toNat = (@unpackMantissa Format.binary64 bits).toNat := by
      rw [fraction, mantissaOf, if_pos low]
    have least : exponentOf bits.toNat = 1 := if_pos low
    simp [mantissa, least, lowest, Format.exponentBias]
  · have normal : @unpackExponent Format.binary64 bits ≠ 0#11 := by
      intro zero
      have same := field.symm.trans (congrArg BitVec.toNat zero)
      simp at same
      omega
    simp only [if_neg normal]
    have leading : (1#1 ++ @unpackMantissa Format.binary64 bits).toNat = mantissaOf bits.toNat := by
      rw [BitVec.toNat_append, ← Nat.shiftLeft_add_eq_or_of_lt (BitVec.isLt _), fraction, mantissaOf,
        if_neg low, Nat.shiftLeft_eq]
      simp
      omega
    have counted : ((@unpackExponent Format.binary64 bits).toNat : Int) = exponentOf bits.toNat := by
      rw [field, exponentOf, if_neg low, Nat.mod_eq_of_lt (by omega)]
    simp [leading, counted, Format.exponentBias]

theorem pack_finite {bits : Nat} (some : bits ≠ 0) (finite : bits < infiniteBits)
    (positive : 0 < mantissaOf bits) :
    (UnpackedFloat.pack Format.binary64
      (.finite .positive (mantissaOf bits) (exponentOf bits - 1075) positive)).toNat = bits := by
  unfold infiniteBits at finite
  have biased : ((exponentOf bits : Int) - 1075 + Format.binary64.exponentBias +
      Format.binary64.mantissaBitsWithoutImplicit).toNat = exponentOf bits := by
    simp [Format.exponentBias]
    omega
  have bounded : ¬ 2 ^ Format.binary64.exponentBits ≤ exponentOf bits + 1 := by
    simp [exponentOf]
    split <;> omega
  simp only [UnpackedFloat.pack, biased, if_neg bounded]
  obtain ⟨subnormal, normal⟩ := log2_mantissaOf some
  by_cases low : bits / 2 ^ 52 = 0
  · have short : (mantissaOf bits).log2 + 1 ≠ Format.binary64.mantissaBits := by
      have := subnormal low
      simp [Format.mantissaBits]
      omega
    rw [if_neg short, components_toNat, BitVec.toNat_ofNat, BitVec.toNat_ofNat, mantissaOf, if_pos low]
    omega
  · have full : (mantissaOf bits).log2 + 1 = Format.binary64.mantissaBits := by
      rw [normal low]
      rfl
    rw [if_pos full, components_toNat, BitVec.toNat_ofNat, BitVec.toNat_ofNat, mantissaOf, exponentOf,
      if_neg low, if_neg low]
    omega

theorem canonical_bits {mantissa : Nat} {exponent : Int} (canonical : Canonical mantissa exponent)
    (small : exponent ≤ 971) : ∃ bits, bits ≠ 0 ∧ bits < infiniteBits ∧ mantissaOf bits = mantissa ∧
      (exponentOf bits : Int) - 1075 = exponent := by
  obtain ⟨positive, shape⟩ := canonical_iff.mp canonical
  have some : mantissa ≠ 0 := Nat.ne_of_gt positive
  unfold infiniteBits mantissaOf exponentOf
  rcases shape with ⟨full, low⟩ | ⟨short, rfl⟩
  -- The leading bit of a full mantissa is not written; a short one has nothing to leave out.
  · obtain ⟨least, most⟩ := (Nat.log2_eq_iff some).mp full
    refine ⟨(exponent + 1075).toNat * 2 ^ 52 + (mantissa - 2 ^ 52), by omega, by omega, ?_, ?_⟩
    · rw [if_neg (by omega)]
      omega
    · rw [if_neg (by omega)]
      omega
  · have most := (Nat.log2_lt some).mp short
    refine ⟨mantissa, some, by omega, ?_, ?_⟩
    · rw [if_pos (by omega)]
      omega
    · rw [if_pos (by omega)]
      omega

theorem unpack_pack {mantissa : Nat} {exponent : Int} (canonical : Canonical mantissa exponent)
    (small : exponent ≤ 971) :
    (pack (.finite .positive mantissa exponent canonical.positive)).unpack =
      .finite .positive mantissa exponent canonical.positive := by
  obtain ⟨bits, some, finite, rfl, rfl⟩ := canonical_bits canonical small
  have packed := pack_finite some finite canonical.positive
  have back := unpack_finite _ (packed.symm ▸ some) (packed.symm ▸ finite)
  simp only [packed] at back
  exact back

/-! Results that are not negative. -/

inductive Unsigned : UnpackedFloat → Prop
  | infinity : Unsigned (.infinity .positive)
  | zero : Unsigned (.zero .positive)
  | finite {mantissa : Nat} {exponent : Int} (positive : 0 < mantissa) :
      Unsigned (.finite .positive mantissa exponent positive)

theorem pack_unsigned {number : UnpackedFloat} (unsigned : Unsigned number) :
    (UnpackedFloat.pack Format.binary64 number).toNat ≤ infiniteBits := by
  have top : (packedInfinity Format.binary64 .positive).toNat = infiniteBits := by decide
  cases unsigned with
  | infinity => exact Nat.le_of_eq top
  | zero => decide
  | @finite mantissa exponent positive =>
    simp only [UnpackedFloat.pack]
    split
    · exact Nat.le_of_eq top
    · next bounded =>
      have small := (BitVec.ofNat 52 mantissa).isLt
      simp only [Nat.not_le] at bounded
      unfold infiniteBits
      split
      · rw [components_toNat, BitVec.toNat_ofNat]
        have := Nat.mod_le ((exponent + Format.binary64.exponentBias + 52).toNat) (2 ^ 11)
        omega
      · rw [components_toNat]
        simp
        omega

theorem round_unsigned (mantissa : Nat) (exponent : Int) (accuracy : Accuracy) :
    Unsigned (roundWithAccuracy Format.binary64 .positive mantissa exponent accuracy) := by
  simp only [roundWithAccuracy]
  split
  · exact .zero
  · exact .finite _

theorem unpack_unsigned {bits : BitVec 64} (low : bits.toNat ≤ infiniteBits) :
    Unsigned (UnpackedFloat.unpack Format.binary64 bits) := by
  by_cases zero : bits.toNat = 0
  · obtain rfl : bits = 0#64 := BitVec.eq_of_toNat_eq zero
    exact .zero
  by_cases infinite : bits.toNat = infiniteBits
  · obtain rfl : bits = BitVec.ofNat 64 infiniteBits := BitVec.eq_of_toNat_eq infinite
    exact .infinity
  rw [unpack_finite bits zero (by omega)]
  exact .finite _

theorem div_unsigned {first second : UnpackedFloat} (unsigned : Unsigned first)
    (divisor : ∃ mantissa exponent positive, second = .finite .positive mantissa exponent positive) :
    Unsigned (UnpackedFloat.div Format.binary64 first second) := by
  obtain ⟨mantissa, exponent, positive, rfl⟩ := divisor
  cases unsigned with
  | infinity => exact .infinity
  | zero => exact .zero
  | finite => exact round_unsigned _ _ _

theorem ofScientific_unsigned (digits : Nat) (exponent : Int) :
    Unsigned (UnpackedFloat.ofScientific Format.binary64 digits exponent) := by
  simp only [UnpackedFloat.ofScientific]
  split
  · exact .zero
  split
  · exact .infinity
  split
  · exact .zero
  split
  · exact round_unsigned _ _ _
  · exact round_unsigned _ _ _

theorem ofNat_unsigned (whole : Nat) : Unsigned (UnpackedFloat.ofNat Format.binary64 whole) := by
  simp only [UnpackedFloat.ofNat, UnpackedFloat.ofInt, UnpackedFloat.normalize]
  split
  · next negative =>
    have := Int.compare_eq_lt.mp negative
    omega
  · exact .zero
  · exact round_unsigned _ _ _

def isPower (power : Nat) : UnpackedFloat → Bool
  | .finite .positive mantissa exponent _ =>
    mantissa * 2 ^ exponent.toNat == 10 ^ power * 2 ^ (-exponent).toNat
  | _ => false

-- Each entry of the table is unpacked, and compared with the power as a whole number.
theorem powers_isPower : ∀ power : Fin 23,
    isPower power Float.exactlyRepresentablePowersOfTen[power].toModel.unpack = true := by
  decide +kernel

theorem value_of_isPower {power : Nat} {number : UnpackedFloat} (isPower : isPower power number = true) :
    ∃ mantissa exponent positive, number = .finite .positive mantissa exponent positive ∧
      value mantissa exponent = 10 ^ power := by
  unfold Binary64.isPower at isPower
  split at isPower
  · next mantissa exponent positive =>
    refine ⟨mantissa, exponent, positive, rfl, ?_⟩
    have whole : (mantissa * 2 ^ exponent.toNat : ℚ) = 10 ^ power * 2 ^ (-exponent).toNat := by
      exact_mod_cast eq_of_beq isPower
    have split : exponent = (exponent.toNat : Int) - ((-exponent).toNat : Int) := by omega
    rw [value, split, zpow_sub₀ (by norm_num), zpow_natCast, zpow_natCast, ← mul_div_assoc, whole]
    exact mul_div_cancel_right₀ _ (pow_ne_zero _ (by norm_num))
  · cases isPower

theorem ofNat_exact {whole : Nat} (some : 0 < whole) (small : whole < 2 ^ 53) :
    ∃ mantissa exponent positive,
      (pack (UnpackedFloat.ofNat Format.binary64 whole)).unpack =
        .finite .positive mantissa exponent positive ∧ value mantissa exponent = whole := by
  have length : whole.log2 < 53 := (Nat.log2_lt (Nat.ne_of_gt some)).mpr small
  have target : Format.binary64.targetExponent (totalExponent whole 0) =
      -((52 - whole.log2 : Nat) : Int) := by
    rw [target_eq, totalExponent]
    omega
  generalize 52 - whole.log2 = shift at target
  have same : value (whole * 2 ^ shift) (-(shift : Int)) = value whole 0 := by
    rw [← value_add, Int.add_left_neg]
  have positive : 0 < whole * 2 ^ shift := Nat.mul_pos some (Nat.two_pow_pos shift)
  have canonical : Canonical (whole * 2 ^ shift) (-(shift : Int)) :=
    ⟨positive, by rw [total_of_value positive some same, target]⟩
  have amount : ((0 : Int) - -(shift : Int)).toNat = shift := by omega
  have rounded : UnpackedFloat.ofNat Format.binary64 whole =
      .finite .positive (whole * 2 ^ shift) (-(shift : Int)) positive := by
    have order : compare (whole : Int) 0 = .gt := Int.compare_eq_gt.mpr (by omega)
    simp only [UnpackedFloat.ofNat, UnpackedFloat.ofInt, UnpackedFloat.normalize, order,
      UnpackedFloat.round, Int.toNat_natCast, target, decreaseExponent, amount, Nat.shiftLeft_eq]
    exact round_exact .positive canonical (by omega) (by simp)
  refine ⟨_, _, positive, ?_, same.trans (value_zero whole)⟩
  rw [rounded]
  exact unpack_pack canonical (by omega)

/-! Finite numbers without a sign. -/

theorem eq_of_toBits {first second : Float} (same : first.toBits.toNat = second.toBits.toNat) :
    first = second := by
  obtain ⟨⟨bits, valid⟩⟩ := first
  obtain ⟨⟨others, validToo⟩⟩ := second
  obtain rfl : bits = others := UInt64.toNat_inj.mp same
  rfl

def Magnitude (x : Float) : Prop := x.toBits.toNat < infiniteBits

theorem magnitude_of_finite {x : Float} (unsigned : x.toBits.toNat ≤ infiniteBits)
    (finite : x.isInf = false) : Magnitude x := by
  refine Nat.lt_of_le_of_ne unsigned fun infinite => ?_
  obtain rfl : x = Float.ofBits 0x7FF0000000000000 := eq_of_toBits (infinite.trans (by decide))
  exact absurd finite (by decide)

theorem magnitude_zero : Magnitude 0 :=
  show (0 : Float).toBits.toNat < infiniteBits by decide

namespace Magnitude

variable {x : Float} (magnitude : Magnitude x)

include magnitude

theorem eq_pack (some : x.toBits.toNat ≠ 0) :
    x = .ofModel (pack (.finite .positive (mantissaOf x.toBits.toNat)
      (exponentOf x.toBits.toNat - 1075) (mantissaOf_canonical some).positive)) :=
  eq_of_toBits (pack_finite some magnitude (mantissaOf_canonical some).positive).symm

theorem unpack : x.toModel.unpack = .zero .positive ∨
    ∃ mantissa exponent positive, x.toModel.unpack = .finite .positive mantissa exponent positive := by
  by_cases zero : x.toBits.toNat = 0
  · obtain rfl : x = 0 := eq_of_toBits zero
    exact .inl rfl
  · exact .inr ⟨_, _, _, unpack_finite _ zero magnitude⟩

theorem isNaN : x.isNaN = false := by
  rcases magnitude.unpack with same | ⟨mantissa, exponent, positive, same⟩
  · exact congrArg UnpackedFloat.isNaN same
  · exact congrArg UnpackedFloat.isNaN same

theorem isInf : x.isInf = false := by
  rcases magnitude.unpack with same | ⟨mantissa, exponent, positive, same⟩
  · exact congrArg UnpackedFloat.isInf same
  · exact congrArg UnpackedFloat.isInf same

theorem isNegative : isNegative x = false := by
  have low : x.toBits.toNat < infiniteBits := magnitude
  unfold infiniteBits at low
  simp [Scriptlet.isNegative]
  omega

theorem abs : x.abs = x := by
  by_cases zero : x.toBits.toNat = 0
  · obtain rfl : x = 0 := eq_of_toBits zero
    decide
  · have same := unpack_finite _ zero magnitude
    refine Eq.trans ?_ (magnitude.eq_pack zero).symm
    exact congrArg Float.ofModel (congrArg pack (congrArg UnpackedFloat.abs same))

end Magnitude

end Scriptlet.Binary64
