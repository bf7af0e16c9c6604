import Scriptlet.Proofs.Binary64

/-! The shortest decimal of a number reads back as the number. -/
namespace Scriptlet.Decimal

open Binary64 Float.Model Float.Model.UnpackedFloat

def value (decimal : Decimal) : ℚ := decimal.digits / 10 ^ decimal.places

/-- A decimal with a value in range is not taken for zero by its size alone. -/
theorem places_bounded {digits places mantissa : Nat} {exponent : Int}
    (canonical : Canonical mantissa exponent)
    (product : (digits : ℚ) = Binary64.value mantissa exponent * 10 ^ places) :
    places < digits.log2 + 1075 := by
  have least := canonical_least canonical
  have tens : (2 : ℚ) ^ places ≤ 10 ^ places := pow_le_pow_left₀ (by norm_num) (by norm_num) places
  have most : (digits : ℚ) < 2 ^ (digits.log2 + 1) := by exact_mod_cast Nat.lt_log2_self
  have bound : (2 : ℚ) ^ ((-1074 : Int) + places) < 2 ^ ((digits.log2 + 1 : Nat) : Int) := by
    rw [zpow_add₀ (by norm_num), zpow_natCast, zpow_natCast]
    refine lt_of_le_of_lt ?_ most
    rw [product]
    exact mul_le_mul least tens (by positivity) (le_trans (by positivity) least)
  have order := (zpow_lt_zpow_iff_right₀ (by norm_num)).mp bound
  omega

theorem ofScientific_exact {digits places mantissa : Nat} {exponent : Int}
    (canonical : Canonical mantissa exponent) (some : 0 < digits)
    (product : (digits : ℚ) = Binary64.value mantissa exponent * 10 ^ places) :
    UnpackedFloat.ofScientific Format.binary64 digits (Int.negOfNat places) =
      .finite .positive mantissa exponent canonical.positive := by
  have bounded := places_bounded canonical product
  rw [Int.negOfNat_eq, Int.ofNat_eq_natCast]
  simp only [UnpackedFloat.ofScientific]
  rw [dif_neg (Nat.ne_of_gt some), if_neg (by omega), if_neg (by omega)]
  split
  · next whole =>
    obtain rfl : places = 0 := by omega
    rw [pow_zero, mul_one] at product
    -- The product is scaled up by 53 bits first, which lie below every whole number's exponent.
    have least := whole_exponent canonical some product
    have times : Sign.positive * Sign.positive = Sign.positive := rfl
    have bits : Format.binary64.mantissaBits = 53 := rfl
    have stands : Binary64.value (digits <<< 53 * 10 ^ (-((0 : Nat) : Int)).toNat)
        (-((53 : Nat) : Int) + 0) = Binary64.value mantissa exponent := by
      rw [← product, ← value_zero digits, Nat.shiftLeft_eq]
      simpa using (value_add digits (-53) 53).symm
    simp only [UnpackedFloat.mul, times, bits]
    exact round_exact .positive canonical (by omega) stands
  · have same : (- -(places : Int)).toNat = places := by omega
    simp only [same]
    refine div_exact .positive .positive some _ canonical ?_
    rw [value_zero, value_zero, product]
    push_cast
    rfl

theorem nearest_exact {decimal : Decimal} {mantissa : Nat} {exponent : Int}
    (canonical : Canonical mantissa exponent)
    (same : decimal.value = Binary64.value mantissa exponent) :
    decimal.nearest = .ofModel (pack (.finite .positive mantissa exponent canonical.positive)) := by
  have power : (10 ^ decimal.places : ℚ) ≠ 0 := by positivity
  have product : (decimal.digits : ℚ) = Binary64.value mantissa exponent * 10 ^ decimal.places := by
    rw [← same, value, div_mul_cancel₀ _ power]
  have some : 0 < decimal.digits := by
    have above : (0 : ℚ) < decimal.digits := by
      rw [product]
      exact mul_pos (value_pos canonical.positive exponent) (by positivity)
    exact_mod_cast above
  unfold nearest Float.ofScientific
  split
  · next fast =>
    simp only [if_true]
    -- Few enough digits and places: both are held as they are, and one division is all.
    have whole : decimal.digits.toUInt64.toNat = decimal.digits := by
      simp
      omega
    obtain ⟨first, early, positive, held, counts⟩ := ofNat_exact some fast.1
    obtain ⟨second, late, positiveToo, heldToo, tens⟩ :=
      value_of_isPower (powers_isPower ⟨decimal.places, by omega⟩)
    refine congrArg Float.ofModel (congrArg pack ?_)
    change UnpackedFloat.div Format.binary64
      (pack (UnpackedFloat.ofNat Format.binary64 decimal.digits.toUInt64.toNat)).unpack _ = _
    rw [whole, held]
    refine (congrArg _ heldToo).trans ?_
    exact div_exact .positive .positive positive positiveToo canonical (by rw [counts, tens, product])
  · simp only [if_true]
    exact congrArg Float.ofModel (congrArg pack (ofScientific_exact canonical some product))

theorem nearest_unsigned (decimal : Decimal) : decimal.nearest.toBits.toNat ≤ infiniteBits := by
  unfold nearest Float.ofScientific
  split
  · next fast =>
    simp only [if_true]
    obtain ⟨mantissa, exponent, positive, held, -⟩ :=
      value_of_isPower (powers_isPower ⟨decimal.places, by omega⟩)
    refine pack_unsigned (div_unsigned (unpack_unsigned (pack_unsigned (ofNat_unsigned _))) ?_)
    exact ⟨mantissa, exponent, positive, held⟩
  · exact pack_unsigned (ofScientific_unsigned _ _)

theorem trimmed_value (digits places : Nat) : (trimmed digits places).value = digits / 10 ^ places := by
  fun_induction trimmed digits places with
  | case1 digits => rfl
  | case2 digits places zero ih =>
    obtain ⟨tenth, rfl⟩ := Nat.dvd_of_mod_eq_zero zero
    rw [ih, Nat.mul_div_cancel_left _ (by decide), pow_succ]
    push_cast
    field_simp
  | case3 digits places nonzero => rfl

theorem normal_value (decimal : Decimal) : decimal.normal.value = decimal.value :=
  trimmed_value _ _

def Trim (decimal : Decimal) : Prop := decimal.places = 0 ∨ decimal.digits % 10 ≠ 0

theorem normal_trim (decimal : Decimal) : decimal.normal.Trim := by
  unfold normal
  fun_induction trimmed decimal.digits decimal.places with
  | case1 digits => exact .inl rfl
  | case2 digits places zero ih => exact ih
  | case3 digits places nonzero => exact .inr nonzero

theorem trimmed_trim {decimal : Decimal} (trim : decimal.Trim) : decimal.normal = decimal := by
  obtain ⟨digits, places⟩ := decimal
  cases places with
  | zero => rfl
  | succ places =>
    rcases trim with none | nonzero
    · cases none
    · exact if_neg nonzero

theorem scaled_value (digits : Nat) (exponent : Int) :
    (scaled digits exponent).value = digits * (10 : ℚ) ^ exponent := by
  unfold scaled value
  split
  · next zeros =>
    rw [Int.ofNat_eq_natCast, zpow_natCast]
    push_cast
    simp
  · next less =>
    rw [zpow_negSucc, div_eq_mul_inv]

theorem ratio_value {x : Float} (magnitude : Magnitude x) : ∃ numerator shift,
    ratio x = (numerator, 2 ^ shift) ∧ (numerator / 2 ^ shift : ℚ) =
      Binary64.value (mantissaOf x.toBits.toNat) (exponentOf x.toBits.toNat - 1075) := by
  have low : x.toBits.toNat < 2047 * 2 ^ 52 := magnitude
  have bits : x.toBits.toNat % Nat.pow 2 63 = x.toBits.toNat := Nat.mod_eq_of_lt (by
    change _ < 2 ^ 63
    omega)
  simp only [ratio, bits]
  change ∃ numerator shift, (if 1075 ≤ exponentOf x.toBits.toNat then
    (mantissaOf x.toBits.toNat * 2 ^ (exponentOf x.toBits.toNat - 1075), 1)
    else (mantissaOf x.toBits.toNat, 2 ^ (1075 - exponentOf x.toBits.toNat))) =
      (numerator, 2 ^ shift) ∧ _
  generalize exponentOf x.toBits.toNat = biased
  split
  · next large =>
    refine ⟨_, 0, rfl, ?_⟩
    have exponent : (biased : Int) - 1075 = ((biased - 1075 : Nat) : Int) := by omega
    rw [exponent, Binary64.value, zpow_natCast]
    push_cast
    simp
  · next small =>
    refine ⟨_, _, rfl, ?_⟩
    have exponent : (biased : Int) - 1075 = -((1075 - biased : Nat) : Int) := by omega
    rw [exponent, Binary64.value, zpow_neg, zpow_natCast, div_eq_mul_inv]

theorem figures_bounds {whole : Nat} (some : 0 < whole) :
    10 ^ ((figures whole).length - 1) ≤ whole ∧ whole < 10 ^ (figures whole).length := by
  have shown : 0 < (figures whole).length := Nat.length_toDigits_pos
  constructor
  · by_cases one : (figures whole).length = 1
    · rw [one]
      exact some
    · have longer := mt (Nat.length_toDigits_le_iff (b := 10) (by decide) (by omega)).mpr
        (show ¬ (figures whole).length ≤ (figures whole).length - 1 by omega)
      exact Nat.le_of_not_lt longer
  · exact (Nat.length_toDigits_le_iff (by decide) shown).mp (Nat.le_refl _)

theorem magnitude_bounds {numerator denominator : Nat} (some : 0 < numerator) (whole : 0 < denominator) :
    (10 : ℚ) ^ (magnitude numerator denominator - 1) ≤ numerator / denominator ∧
      (numerator / denominator : ℚ) ≤ 10 ^ magnitude numerator denominator := by
  have above : (0 : ℚ) < numerator := by exact_mod_cast some
  have below : (0 : ℚ) < denominator := by exact_mod_cast whole
  unfold magnitude
  split
  · next large =>
    have shown : 0 < (figures (numerator / denominator)).length := Nat.length_toDigits_pos
    obtain ⟨low, high⟩ := figures_bounds (Nat.div_pos large whole)
    generalize (figures (numerator / denominator)).length = length at *
    have least : 10 ^ (length - 1) * denominator ≤ numerator := (Nat.le_div_iff_mul_le whole).mp low
    have most : numerator < 10 ^ length * denominator := (Nat.div_lt_iff_lt_mul whole).mp high
    have exponent : (length : Int) - 1 = ((length - 1 : Nat) : Int) := by omega
    rw [exponent, zpow_natCast, zpow_natCast, le_div_iff₀ below, div_le_iff₀ below]
    exact ⟨by exact_mod_cast least, by exact_mod_cast most.le⟩
  · next small =>
    have shown : 0 < (figures (denominator / numerator)).length := Nat.length_toDigits_pos
    obtain ⟨low, high⟩ := figures_bounds (Nat.div_pos (Nat.le_of_not_le small) some)
    generalize (figures (denominator / numerator)).length = length at *
    have least : 10 ^ (length - 1) * numerator ≤ denominator := (Nat.le_div_iff_mul_le some).mp low
    have most : denominator < 10 ^ length * numerator := (Nat.div_lt_iff_lt_mul some).mp high
    have first : (1 : Int) - length - 1 = -(length : Int) := by omega
    have second : (1 : Int) - length = -((length - 1 : Nat) : Int) := by omega
    rw [first, second, zpow_neg, zpow_neg, zpow_natCast, zpow_natCast, le_div_iff₀ below,
      div_le_iff₀ below, inv_mul_le_iff₀ (by positivity), le_inv_mul_iff₀ (by positivity)]
    exact ⟨by exact_mod_cast most.le, by exact_mod_cast least⟩

theorem units_value (numerator : Nat) {denominator : Nat} (whole : 0 < denominator) (exponent : Int) :
    ∃ above below, units numerator denominator exponent = (above, below) ∧ 0 < below ∧
      above / below * (10 : ℚ) ^ exponent = numerator / denominator := by
  have nonzero : (denominator : ℚ) ≠ 0 := by exact_mod_cast whole.ne'
  cases exponent with
  | ofNat zeros =>
    refine ⟨_, _, rfl, Nat.mul_pos whole (Nat.pow_pos (by decide)), ?_⟩
    have power : ((Nat.pow 10 zeros : Nat) : ℚ) = 10 ^ zeros := by exact_mod_cast rfl
    rw [Int.ofNat_eq_natCast, zpow_natCast, Nat.cast_mul, power]
    field_simp
  | negSucc less =>
    refine ⟨_, _, rfl, whole, ?_⟩
    have power : ((Nat.pow 10 (less + 1) : Nat) : ℚ) = 10 ^ (less + 1) := by exact_mod_cast rfl
    rw [zpow_negSucc, Nat.cast_mul, power]
    field_simp

/-- What a grid gives is one of its two points around the number, and reads back. -/
theorem onGrid_point {x : Float} {numerator denominator count : Nat} {decimal : Decimal}
    (found : onGrid x numerator denominator count = some decimal) :
    decimal.nearest = x ∧
      let exponent := magnitude numerator denominator - count
      let (above, below) := units numerator denominator exponent
      ∃ step ≤ 1, decimal = (scaled (above / below + step) exponent).normal := by
  have reads {point : Decimal} (back : readsBack x point = true) : point.nearest = x :=
    eq_of_toBits (congrArg UInt64.toNat (eq_of_beq back))
  simp only [onGrid] at found
  split at found
  · next back backToo =>
    cases found
    split
    · exact ⟨reads back, 0, by decide, rfl⟩
    · exact ⟨reads backToo, 1, by decide, rfl⟩
  · next back _ =>
    cases found
    exact ⟨reads back, 0, by decide, rfl⟩
  · next _ back =>
    cases found
    exact ⟨reads back, 1, by decide, rfl⟩
  · cases found

theorem point_bounds {numerator denominator count step : Nat} (nonzero : 0 < numerator)
    (whole : 0 < denominator) (counts : 0 < count) (next : step ≤ 1) :
    let exponent := magnitude numerator denominator - count
    let (above, below) := units numerator denominator exponent
    (10 : ℚ) ^ exponent ≤ (scaled (above / below + step) exponent).value ∧
      (scaled (above / below + step) exponent).value ≤ 2 * (numerator / denominator) := by
  obtain ⟨least, -⟩ := magnitude_bounds nonzero whole
  intro exponent
  have unit : (10 : ℚ) ^ exponent ≤ numerator / denominator :=
    (zpow_le_zpow_right₀ (by norm_num) (by omega)).trans least
  have scale : (0 : ℚ) < 10 ^ exponent := zpow_pos (by norm_num) exponent
  obtain ⟨above, below, counted, positive, same⟩ := units_value numerator whole exponent
  rw [counted]
  have divisor : (0 : ℚ) < below := by exact_mod_cast positive
  have one : 1 ≤ above / below := by
    rw [← same, le_mul_iff_one_le_left scale, le_div_iff₀ divisor, one_mul] at unit
    exact Nat.div_pos (by exact_mod_cast unit) positive
  have floor : ((above / below : Nat) : ℚ) * 10 ^ exponent ≤ numerator / denominator := by
    rw [← same]
    exact mul_le_mul_of_nonneg_right Nat.cast_div_le scale.le
  -- The unit is at most the number, so even the point above is at most twice the number.
  have further : (step : ℚ) * 10 ^ exponent ≤ 1 * 10 ^ exponent :=
    mul_le_mul_of_nonneg_right (by exact_mod_cast next) scale.le
  constructor
  · rw [scaled_value]
    exact le_mul_of_one_le_left scale.le (by exact_mod_cast Nat.le_add_right_of_le one)
  · rw [scaled_value, Nat.cast_add, add_mul]
    linarith

theorem exact_value (numerator shift : Nat) :
    (exact numerator (2 ^ shift)).value = numerator / 2 ^ shift := by
  have power : ((Nat.pow 5 shift : Nat) : ℚ) = 5 ^ shift := by exact_mod_cast rfl
  have tens : (10 : ℚ) ^ shift = 2 ^ shift * 5 ^ shift := by
    rw [← mul_pow]
    norm_num
  rw [exact, normal_value, value, Nat.log2_two_pow, Nat.cast_mul, power, tens]
  field_simp

theorem two_powers (count : Nat) : (2 : ℚ) ^ ((3 * count : Nat) : Int) ≤ 10 ^ (count : Int) ∧
    (10 : ℚ) ^ (-(count : Int)) ≤ 2 ^ (-((3 * count : Nat) : Int)) := by
  -- Ten is more than two doubled twice.
  have le : (2 : ℚ) ^ ((3 * count : Nat) : Int) ≤ 10 ^ (count : Int) := by
    rw [zpow_natCast, zpow_natCast, pow_mul]
    exact pow_le_pow_left₀ (by norm_num) (by norm_num) count
  refine ⟨le, ?_⟩
  rw [zpow_neg, zpow_neg]
  exact inv_anti₀ (zpow_pos (by norm_num) _) le

theorem value_range {x : Float} (magnitude : Magnitude x) (some : x.toBits.toNat ≠ 0) :
    let number := Binary64.value (mantissaOf x.toBits.toNat) (exponentOf x.toBits.toNat - 1075)
    (10 : ℚ) ^ (-358 : Int) ≤ number ∧ number < 10 ^ (342 : Int) := by
  have low : x.toBits.toNat < 2047 * 2 ^ 52 := magnitude
  have canonical := mantissaOf_canonical some
  intro number
  constructor
  · exact (two_powers 358).2.trans (canonical_least canonical)
  · refine (value_bounds canonical.positive _).2.trans_le (le_trans ?_ (two_powers 342).1)
    have shape := (canonical_iff.mp canonical).2
    have most : exponentOf x.toBits.toNat ≤ 2046 := by
      unfold exponentOf
      split <;> omega
    refine zpow_le_zpow_right₀ (by norm_num) ?_
    unfold totalExponent
    omega

/-- Well inside the range outside of which the size of a number alone decides. -/
def InRange (number : ℚ) : Prop := (10 : ℚ) ^ (-400 : Int) ≤ number ∧ number < 10 ^ (400 : Int)

theorem onGrid_reads {x : Float} {numerator denominator count : Nat} {decimal : Decimal}
    (nonzero : 0 < numerator) (whole : 0 < denominator) (counts : count < 17)
    (least : (10 : ℚ) ^ (-358 : Int) ≤ numerator / denominator)
    (most : (numerator / denominator : ℚ) < 10 ^ (342 : Int))
    (found : onGrid x numerator denominator (count + 1) = some decimal) :
    decimal.nearest = x ∧ decimal.Trim ∧ InRange decimal.value := by
  obtain ⟨reads, step, next, rfl⟩ := onGrid_point found
  obtain ⟨low, high⟩ := point_bounds nonzero whole (Nat.succ_pos count) next
  have top := (magnitude_bounds nonzero whole).2
  have exponent : (-400 : Int) ≤ magnitude numerator denominator - (count + 1 : Nat) := by
    have := (zpow_le_zpow_iff_right₀ (by norm_num)).mp (least.trans top)
    omega
  refine ⟨reads, normal_trim _, ?_⟩
  rw [normal_value]
  refine ⟨(zpow_le_zpow_right₀ (by norm_num) exponent).trans low, high.trans_lt ?_⟩
  calc 2 * (numerator / denominator : ℚ)
      < 2 * 10 ^ (342 : Int) := mul_lt_mul_of_pos_left most (by norm_num)
    _ ≤ 10 * 10 ^ (342 : Int) := mul_le_mul_of_nonneg_right (by norm_num) (zpow_nonneg (by norm_num) _)
    _ = 10 ^ (343 : Int) := (zpow_one_add₀ (by norm_num) 342).symm
    _ ≤ 10 ^ (400 : Int) := zpow_le_zpow_right₀ (by norm_num) (by decide)

theorem shortest_zero : shortest 0 = ⟨0, 0⟩ := by decide

/-- The shortest decimal of a finite number without a sign reads back as the number. -/
theorem shortest_reads {x : Float} (magnitude : Magnitude x) (some : x.toBits.toNat ≠ 0) :
    (shortest x).nearest = x ∧ (shortest x).Trim ∧ InRange (shortest x).value := by
  have canonical := mantissaOf_canonical some
  obtain ⟨numerator, shift, ratio, same⟩ := ratio_value magnitude
  obtain ⟨least, most⟩ := value_range magnitude some
  rw [← same] at least most
  have nonzero : 0 < numerator := by
    refine Nat.pos_of_ne_zero fun none => ?_
    rw [none, Nat.cast_zero, zero_div] at least
    exact absurd least (not_le.mpr (zpow_pos (by norm_num) _))
  have opened : shortest x = ((List.range 17).findSome? fun count =>
      onGrid x numerator (2 ^ shift) (count + 1)).getD (exact numerator (2 ^ shift)) := by
    unfold shortest
    rw [ratio]
    split
    · next none =>
      cases none
      exact absurd nonzero (by decide)
    · next pair =>
      cases pair
      rfl
  rw [opened]
  -- What a grid gives was read back before it was given; the exact decimal has the very value.
  cases found : (List.range 17).findSome? fun count => onGrid x numerator (2 ^ shift) (count + 1) with
  | some decimal =>
    obtain ⟨count, counts, found⟩ := List.exists_of_findSome?_eq_some found
    exact onGrid_reads nonzero (Nat.two_pow_pos shift) (List.mem_range.mp counts)
      (by exact_mod_cast least) (by exact_mod_cast most) found
  | none =>
    have equal := (exact_value numerator shift).trans same
    refine ⟨(nearest_exact canonical equal).trans (magnitude.eq_pack some).symm, normal_trim _, ?_⟩
    rw [Option.getD_none, exact_value]
    exact ⟨(zpow_le_zpow_right₀ (by norm_num) (by decide)).trans least,
      most.trans_le (zpow_le_zpow_right₀ (by norm_num) (by decide))⟩

end Scriptlet.Decimal
