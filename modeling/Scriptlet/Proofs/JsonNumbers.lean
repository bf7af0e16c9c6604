import Mathlib
import Scriptlet.Proofs.FiniteNumbers
import Scriptlet.Proofs.JsonTexts
import Scriptlet.Value.Json

/-! Numbers in JSON: every integer of 64 bits and every finite floating-point number is written as a
literal that is read back, and that has a floating-point number of its own. -/
namespace Scriptlet.Decimal

open Binary64

theorem trim_unique_of_le {first second : Decimal} (trim : second.Trim)
    (fewer : first.places ≤ second.places) (same : first.value = second.value) : first = second := by
  obtain ⟨digits, places⟩ := first
  obtain ⟨others, further⟩ := second
  obtain ⟨more, rfl⟩ := Nat.exists_eq_add_of_le fewer
  have equal : digits * 10 ^ more = others := by
    simp only [value] at same
    rw [pow_add] at same
    field_simp at same
    exact_mod_cast same
  cases more with
  | zero => simp [← equal]
  | succ more =>
    rcases trim with none | nonzero
    · exact absurd none (by simp)
    · simp only at nonzero
      rw [← equal, Nat.pow_succ, ← Nat.mul_assoc, Nat.mul_mod_left] at nonzero
      exact absurd rfl nonzero

/-- Without zeros at its end, a decimal is told by its value. -/
theorem trim_unique {first second : Decimal} (trim : first.Trim) (trimToo : second.Trim)
    (same : first.value = second.value) : first = second := by
  rcases Nat.le_total first.places second.places with fewer | more
  · exact trim_unique_of_le trimToo fewer same
  · exact (trim_unique_of_le trim more same.symm).symm

/-- A number is read back from its shortest decimal however that is written: with zeros after it, or with
a power of ten. -/
theorem read_of_value {x : Float} (magnitude : Magnitude x) (nonzero : x.toBits.toNat ≠ 0)
    {mantissa places : Nat} {exponent : Int}
    (same : (mantissa / 10 ^ places * 10 ^ exponent : ℚ) = (shortest x).value) :
    decimalFloat? mantissa places exponent = some x := by
  obtain ⟨reads, trim, least, most⟩ := shortest_reads magnitude nonzero
  have scale : (0 : ℚ) < 10 ^ exponent := zpow_pos (by norm_num) exponent
  rw [← same] at least most
  have positive : 0 < mantissa := by
    refine Nat.pos_of_ne_zero fun none => ?_
    rw [none, Nat.cast_zero, zero_div, zero_mul] at least
    exact absurd least (not_le.mpr (zpow_pos (by norm_num) _))
  obtain ⟨low, high⟩ := size_bounds positive places
  have lower := (mul_le_mul_of_nonneg_right low scale.le).trans_lt most
  have upper := least.trans_lt (mul_lt_mul_of_pos_right high scale)
  rw [← zpow_add₀ (by norm_num)] at lower upper
  have small := (zpow_lt_zpow_iff_right₀ (by norm_num)).mp lower
  have large := (zpow_lt_zpow_iff_right₀ (by norm_num)).mp upper
  have found {exact : Decimal} (equal : exact.value = mantissa / 10 ^ places * 10 ^ exponent) :
      finite? exact.normal.nearest = some x := by
    have shortest : exact.normal = shortest x :=
      trim_unique (normal_trim exact) trim (by rw [normal_value, equal, same])
    rw [shortest, reads, finite?, magnitude.isInf]
    rfl
  simp only [decimalFloat?]
  rw [if_neg (Nat.ne_of_gt positive), if_neg (by omega), if_neg (by omega)]
  cases exponent with
  | ofNat zeros =>
    refine found ?_
    simp only [value, Nat.pow_eq, Int.ofNat_eq_natCast, zpow_natCast]
    push_cast
    rw [div_mul_eq_mul_div]
  | negSucc less =>
    refine found ?_
    simp only [value, zpow_negSucc]
    rw [Nat.add_assoc, pow_add, ← div_div, div_eq_mul_inv]

/-! Numbers with a sign or a power of ten. -/

theorem readFloat_negative {c : Char} {rest : List Char} (figure : isFigure c = true) :
    readFloat? (String.ofList ('-' :: c :: rest)) =
      (readFloat? (String.ofList (c :: rest))).map Float.neg := by
  have number := lower_ne figure (d := 'n') (by decide) rest ['a', 'n']
  have minus : (String.ofList (('-' :: c :: rest).map Char.toLower) == "nan") = false := by
    refine beq_eq_false_iff_ne.mpr fun same => ?_
    have heads := congrArg String.toList same
    rw [String.toList_ofList, List.map_cons] at heads
    exact absurd (List.cons.inj heads).1 (by decide)
  rw [readFloat?, readFloat?, String.toList_ofList, String.toList_ofList, if_neg (by simpa using minus),
    if_neg (by simpa using number), signed_figure figure]
  rfl

theorem le_foldl (shown : List Char) (value : Nat) :
    value ≤ shown.foldl (fun value c => value * 10 + figureValue c) value := by
  induction shown generalizing value with
  | nil => exact Nat.le_refl value
  | cons c rest ih => exact Nat.le_trans (by omega) (ih (value * 10 + figureValue c))

theorem exponentValue_eq {shown : List Char} (short : valueOf 10 shown < 10000) :
    exponentValue shown = valueOf 10 shown := by
  unfold exponentValue valueOf at *
  generalize 0 = value at short ⊢
  induction shown generalizing value with
  | nil => rfl
  | cons c rest ih =>
    have below : value < 10000 := Nat.lt_of_le_of_lt (le_foldl (c :: rest) value) short
    rw [List.foldl_cons, List.foldl_cons, if_pos below]
    exact ih _ short

theorem readExponent_figures {sign : Char} (marked : sign = '+' ∨ sign = '-') {power : Nat}
    (short : power < 10000) :
    readExponent? (sign :: figures power) = some (if sign = '-' then -(power : Int) else power) := by
  have value : exponentValue (figures power) = power := by
    rw [exponentValue_eq (by rwa [valueOf_figures]), valueOf_figures]
  have kept : (figures power).filter isFigure = figures power := List.filter_eq_self.mpr mem_figures
  have all : (figures power).all (fun c => isFigure c || c == '_') = true :=
    List.all_eq_true.mpr fun c member => by simp [mem_figures c member]
  obtain ⟨c, rest, starts⟩ := List.exists_cons_of_ne_nil (figures_numeral power).starts
  have member : c ∈ figures power := by simp [starts]
  have figure := mem_figures c member
  rw [starts] at value kept all ⊢
  rcases marked with rfl | rfl
  · simp only [readExponent?, signed, figure, all, kept, value]
    rfl
  · simp only [readExponent?, signed, figure, all, kept, value]
    rfl

theorem Numeral.written_power {whole fraction : List Char} (numeral : Numeral whole fraction)
    (rest : List Char) : written? isFigure ['e', 'E'] (Numeral.text whole fraction ++ 'e' :: rest) =
      (readExponent? rest).map fun exponent => ⟨whole, fraction, some exponent⟩ := by
  have plain {shown : List Char} (all : ∀ c ∈ shown, isFigure c = true) :
      ∀ c ∈ shown, (isFigure c || c == '_') = true := fun c member => by simp [all c member]
  have front := fun c member => numeral.figures c (List.mem_append_left fraction member)
  have back := fun c member => numeral.figures c (List.mem_append_right whole member)
  -- The figures stop at the point or at the mark of the exponent.
  have bars (c : Char) (other : (isFigure c || c == '_') = false) (more : List Char) :
      Segment.Bars (fun c => isFigure c || c == '_') (c :: more) := by
    rintro d head
    cases head
    exact other
  have mark := bars 'e' (by decide) rest
  have some : whole.isEmpty = false := by simpa using numeral.starts
  unfold Numeral.text
  split
  · next none =>
    obtain rfl := List.isEmpty_iff.mp none
    rw [List.append_nil]
    simp only [written?, Segment.takeWhile_span (plain front) mark,
      Segment.dropWhile_span (plain front) mark, List.filter_eq_self.mpr front, some, Bool.false_and,
      Bool.false_eq_true, if_false]
    rfl
  · have point := bars '.' (by decide) (fraction ++ 'e' :: rest)
    rw [List.append_assoc, List.cons_append]
    simp only [written?, Segment.takeWhile_span (plain front) point,
      Segment.dropWhile_span (plain front) point, List.filter_eq_self.mpr front,
      Segment.takeWhile_span (plain back) mark, Segment.dropWhile_span (plain back) mark,
      List.filter_eq_self.mpr back, some, Bool.false_and, Bool.false_eq_true, if_false]
    rfl

theorem Numeral.mem_power {whole fraction : List Char} (numeral : Numeral whole fraction) {sign : Char}
    (marked : sign = '+' ∨ sign = '-') (power : Nat) :
    ∀ c ∈ Numeral.text whole fraction ++ 'e' :: sign :: Decimal.figures power,
      isFigure c = true ∨ c ∈ ['.', 'e', '+', '-'] := by
  intro c member
  rcases List.mem_append.mp member with front | back
  · rcases numeral.mem_text c front with figure | rfl
    · exact .inl figure
    · exact .inr (by decide)
  · rcases List.mem_cons.mp back with rfl | back
    · exact .inr (by decide)
    · rcases List.mem_cons.mp back with rfl | figure
      · rcases marked with rfl | rfl
        · exact .inr (by decide)
        · exact .inr (by decide)
      · exact .inl (mem_figures c figure)

theorem Numeral.readFloat_power {whole fraction : List Char} (numeral : Numeral whole fraction)
    {sign : Char} (marked : sign = '+' ∨ sign = '-') {power : Nat} (short : power < 10000) :
    readFloat? (String.ofList (Numeral.text whole fraction ++ 'e' :: sign :: Decimal.figures power)) =
      decimalFloat? (valueOf 10 (whole ++ fraction)) fraction.length
        (if sign = '-' then -(power : Int) else power) := by
  have chars := numeral.mem_power marked power
  have written := numeral.written_power (sign :: Decimal.figures power)
  rw [readExponent_figures marked short] at written
  obtain ⟨c, tail, starts⟩ := List.exists_cons_of_ne_nil numeral.starts
  have figure : isFigure c = true := numeral.figures c (by simp [starts])
  obtain ⟨rest, same⟩ : ∃ rest,
      Numeral.text whole fraction ++ 'e' :: sign :: Decimal.figures power = c :: rest :=
    ⟨_, by rw [Numeral.text, starts, List.cons_append, List.cons_append]⟩
  rw [same] at chars written ⊢
  have differs {d : Char} (other : isFigure d = false) (unlisted : d ∉ ['.', 'e', '+', '-']) :
      ∀ e ∈ c :: rest, e ≠ d := by
    rintro _ member rfl
    rcases chars _ member with figure | listed
    · rw [figure] at other
      cases other
    · exact unlisted listed
  rw [readFloat_plain figure]
  · simp only [readDecimal?, written, underscoresFit_plain (differs (d := '_') (by decide) (by decide)),
      Option.map_some, Option.bind_eq_bind, Option.bind_some, if_true, Option.getD_some]
  · rintro mark more rfl
    have member : mark ∈ c :: mark :: more := by simp
    simp [differs (d := 'x') (by decide) (by decide) mark member,
      differs (d := 'X') (by decide) (by decide) mark member]

/-! The two ways in which a decimal is written. -/

theorem zeros_span (shown : List Char) : ∃ zeros,
    shown = (shown.reverse.dropWhile (· == '0')).reverse ++ List.replicate zeros '0' := by
  have parts := List.takeWhile_append_dropWhile (p := (· == '0')) (l := shown.reverse)
  refine ⟨(shown.reverse.takeWhile (· == '0')).length, ?_⟩
  have all : shown.reverse.takeWhile (· == '0') =
      List.replicate (shown.reverse.takeWhile (· == '0')).length '0' := by
    refine List.eq_replicate_of_mem fun c member => ?_
    simpa using List.all_eq_true.mp List.all_takeWhile c member
  have back := congrArg List.reverse parts
  rw [List.reverse_append, List.reverse_reverse] at back
  rw [← List.reverse_replicate, ← all]
  exact back.symm

theorem valueOf_zeros {shown : List Char} (all : ∀ c ∈ shown, isFigure c = true) (zeros : Nat) :
    valueOf 10 (shown ++ List.replicate zeros '0') = valueOf 10 shown * 10 ^ zeros := by
  have figures : ∀ c ∈ shown ++ List.replicate zeros '0', isFigure c = true := by
    intro c member
    rcases List.mem_append.mp member with front | zero
    · exact all c front
    · rw [List.eq_of_mem_replicate zero]
      rfl
  rw [valueOf, valueOf_eq figures, Nat.ofDigitChars_append, Nat.ofDigitChars_replicate_zero, ← valueOf_eq all,
    Nat.mul_comm]
  rfl

theorem significant_figures {decimal : Decimal} (some : 0 < decimal.digits) :
    ∃ head tail, ∃ zeros : Nat,
      decimal.significant = (head :: tail, (tail.length + zeros : Int) - decimal.places) ∧
      Numeral [head] tail ∧ head ≠ '0' ∧ valueOf 10 (head :: tail) * 10 ^ zeros = decimal.digits := by
  obtain ⟨zeros, span⟩ := zeros_span (figures decimal.digits)
  have starts := head_figures some
  have value := valueOf_figures decimal.digits
  have all : ∀ c ∈ figures decimal.digits, isFigure c = true := mem_figures
  have length := congrArg List.length span
  generalize shownIs : ((figures decimal.digits).reverse.dropWhile (· == '0')).reverse = kept at span length
  rw [span] at starts value all
  have front : ∀ c ∈ kept, isFigure c = true := fun c member => all c (List.mem_append_left _ member)
  cases kept with
  | nil =>
    cases zeros with
    | zero => exact absurd span Nat.toDigits_ne_nil
    | succ zeros => exact absurd rfl starts
  | cons head tail =>
    refine ⟨head, tail, zeros, ?_, ⟨List.cons_ne_nil _ _, front⟩, ?_, ?_⟩
    · rw [significant, shownIs, length]
      simp
    · rintro rfl
      exact starts rfl
    · rw [← valueOf_zeros front, value]

/-- Scientific notation keeps the value: a numeral with one figure before its point, that is not zero,
and a power of ten. -/
theorem scientific_power {decimal : Decimal} (some : 0 < decimal.digits) :
    ∃ head tail, Numeral [head] tail ∧ head ≠ '0' ∧
      decimal.scientific = String.ofList (Numeral.text [head] tail ++ 'e' ::
        (if decimal.significant.2 < 0 then '-' else '+') :: figures decimal.significant.2.natAbs) ∧
      (valueOf 10 ([head] ++ tail) / 10 ^ tail.length * 10 ^ decimal.significant.2 : ℚ) =
        decimal.value := by
  obtain ⟨head, tail, zeros, same, numeral, nonzero, digits⟩ := significant_figures some
  refine ⟨head, tail, numeral, nonzero, ?_, ?_⟩
  · rw [scientific, same]
    have mantissa : (if tail.isEmpty then [head] else head :: '.' :: tail) = Numeral.text [head] tail := by
      cases tail <;> rfl
    refine String.toList_injective ?_
    simp only [mantissa]
    by_cases negative : (tail.length + zeros : Int) - decimal.places < 0
    · simp [negative, figures]
    · simp [negative, figures]
  · rw [same, value, ← digits, List.singleton_append]
    have scale : (10 : ℚ) ≠ 0 := by norm_num
    rw [zpow_sub₀ scale, zpow_add₀ scale, zpow_natCast, zpow_natCast, zpow_natCast]
    push_cast
    field_simp

theorem significant_bounds {decimal : Decimal} (some : 0 < decimal.digits)
    (range : InRange decimal.value) : decimal.significant.2.natAbs < 10000 := by
  obtain ⟨low, high⟩ := size_bounds some decimal.places
  have upper := (zpow_lt_zpow_iff_right₀ (by norm_num)).mp (low.trans_lt range.2)
  have lower := (zpow_lt_zpow_iff_right₀ (by norm_num)).mp (range.1.trans_lt high)
  have same : decimal.significant.2 = ((figures decimal.digits).length : Int) - 1 - decimal.places := rfl
  omega

theorem text_reads {x : Float} (magnitude : Magnitude x) :
    ∃ whole fraction, Numeral whole fraction ∧ (whole.head? = some '0' → whole = ['0']) ∧
      (shortest x).text = String.ofList (Numeral.text whole fraction) ∧
      readFloat? (shortest x).text = some x := by
  obtain ⟨whole, fraction, numeral, shown, places, digits, alone⟩ := text_numeral (shortest x)
  refine ⟨whole, fraction, numeral, alone, shown, ?_⟩
  rw [shown, numeral.readFloat, digits, places]
  exact read_shortest magnitude (shortest_trim magnitude)

theorem scientific_reads {x : Float} (magnitude : Magnitude x) (some : 0 < (shortest x).digits) :
    ∃ head tail power sign, Numeral [head] tail ∧ head ≠ '0' ∧ (sign = '+' ∨ sign = '-') ∧
      (shortest x).scientific =
        String.ofList (Numeral.text [head] tail ++ 'e' :: sign :: figures power) ∧
      readFloat? (shortest x).scientific = Option.some x := by
  have nonzero : x.toBits.toNat ≠ 0 := by
    intro zero
    obtain rfl : x = 0 := eq_of_toBits zero
    rw [shortest_zero] at some
    exact absurd some (by decide)
  obtain ⟨head, tail, numeral, other, shown, value⟩ := scientific_power some
  have short := significant_bounds some (shortest_reads magnitude nonzero).2.2
  generalize (shortest x).significant.2 = exponent at *
  have marked : (if exponent < 0 then '-' else '+') = '+' ∨ (if exponent < 0 then '-' else '+') = '-' := by
    split
    · exact .inr rfl
    · exact .inl rfl
  refine ⟨head, tail, _, _, numeral, other, marked, shown, ?_⟩
  have same : (if (if exponent < 0 then '-' else '+') = '-' then -(exponent.natAbs : Int)
      else exponent.natAbs) = exponent := by
    by_cases low : exponent < 0
    · rw [if_pos low, if_pos rfl]
      omega
    · rw [if_neg low, if_neg (by decide)]
      omega
  rw [shown, numeral.readFloat_power marked short, same]
  exact read_of_value magnitude nonzero value

end Scriptlet.Decimal

namespace Scriptlet.Json

open Decimal Binary64

structure Writes (shown : List Char) : Prop where
  literal : ∃ whole fraction power, Literal [] whole fraction power ∧ shown = whole ++ fraction ++ power
  fits : (readFloat? (String.ofList shown)).isSome = true

theorem numeral_literal {whole fraction power : List Char} (numeral : Numeral whole fraction)
    (alone : whole.head? = some '0' → whole = ['0']) (raised : Power power) : ∃ places,
      Literal [] whole places power ∧ Numeral.text whole fraction ++ power = whole ++ places ++ power := by
  have front : ∀ c ∈ whole, isDigit c = true := fun c member =>
    numeral.figures c (List.mem_append_left fraction member)
  have back : ∀ c ∈ fraction, isDigit c = true := fun c member =>
    numeral.figures c (List.mem_append_right whole member)
  refine ⟨if fraction.isEmpty then [] else '.' :: fraction,
    ⟨.inl rfl, ⟨⟨numeral.starts, front⟩, alone⟩, ?_, raised⟩, rfl⟩
  split
  · exact .none
  · next some => exact .places ⟨by simpa using some, back⟩

theorem figures_alone {value : Nat} (zero : (figures value).head? = some '0') :
    figures value = ['0'] := by
  have none : value = 0 := Nat.eq_zero_of_not_pos fun some => head_figures some zero
  rw [none]
  rfl

theorem readFloat_whole {value : Nat} (short : value < 2 ^ 64) :
    readFloat? (String.ofList (figures value)) = some (nearest ⟨value, 0⟩) := by
  have read := (figures_numeral value).readFloat
  rw [Numeral.text_whole, List.append_nil, valueOf_figures] at read
  rw [read]
  rcases Nat.eq_zero_or_pos value with rfl | some
  · exact congrArg Option.some (eq_of_toBits (by decide))
  · have range : InRange (value / 10 ^ 0) := by
      rw [pow_zero, div_one]
      have one : (1 : ℚ) ≤ value := by exact_mod_cast some
      have most : (value : ℚ) < 2 ^ 64 := by exact_mod_cast short
      have far {low high : Int} (le : low ≤ high) : (10 : ℚ) ^ low ≤ 10 ^ high :=
        zpow_le_zpow_right₀ (by norm_num) le
      constructor
      · refine (far (by decide : (-400 : Int) ≤ 0)).trans ?_
        rw [zpow_zero]
        exact one
      · refine most.trans (lt_of_lt_of_le ?_ (far (by decide : (20 : Int) ≤ 400)))
        norm_num
    have rounded : normal ⟨value, 0⟩ = ⟨value, 0⟩ := rfl
    rw [List.length_nil, decimalFloat_inRange some range, rounded, finite?, (nearest_whole short).isInf]
    rfl

theorem figures_writes {value : Nat} (short : value < 2 ^ 64) : Writes (figures value) := by
  obtain ⟨places, literal, same⟩ := numeral_literal (figures_numeral value) figures_alone Power.none
  rw [Numeral.text_whole, List.append_nil] at same
  refine ⟨⟨_, _, _, literal, same⟩, ?_⟩
  rw [readFloat_whole short]
  rfl

theorem signed_reads (room : Nat) {shown : List Char} (writes : Writes shown) {sign : List Char}
    (signed : sign = [] ∨ sign = ['-']) :
    ReadsAs room (sign ++ shown) (.number (String.ofList (sign ++ shown))) ∧
      '\n' ∉ sign ++ shown ∧ (Json.number (String.ofList (sign ++ shown))).numbersFit = true := by
  obtain ⟨whole, fraction, power, literal, rfl⟩ := writes.literal
  have fits := writes.fits
  have whole : Literal sign whole fraction power :=
    ⟨signed, literal.whole, literal.fraction, literal.power⟩
  refine ⟨?_, ?_, ?_⟩
  · simpa only [List.append_assoc] using literal_reads room whole
  · simpa only [List.append_assoc] using literal_line whole
  · rcases signed with rfl | rfl
    · exact fits
    · obtain ⟨c, rest, same⟩ := List.exists_cons_of_ne_nil literal.whole.starts
      have figure : isFigure c = true := literal.whole.digits c (by simp [same])
      rw [same] at fits ⊢
      show (readFloat? (String.ofList ('-' :: c :: _))).isSome = true
      rw [readFloat_negative figure, Option.isSome_map]
      exact fits

def signOf (value : Int) : List Char := if value < 0 then ['-'] else []

theorem signOf_cases (value : Int) : signOf value = [] ∨ signOf value = ['-'] := by
  unfold signOf
  split
  · exact .inr rfl
  · exact .inl rfl

theorem integer_text (value : Int) : (toString value).toList = signOf value ++ figures value.natAbs := by
  show value.repr.toList = _
  rw [Int.repr_eq_if, signOf]
  by_cases positive : 0 ≤ value
  · rw [if_pos positive, if_neg (by omega), Nat.repr_eq_ofList_toDigits, String.toList_ofList,
      List.nil_append, figures, show value.toNat = value.natAbs by omega]
  · rw [if_neg positive, if_pos (by omega), Nat.repr_eq_ofList_toDigits, String.toList_append,
      String.toList_ofList, String.toList_ofList, figures, show (-value).toNat = value.natAbs by omega]

theorem magnitude_writes {x : Float} (magnitude : Magnitude x) :
    Writes (if (shortest x).digits = 0 || isPositional (shortest x).significant.2 then
      (shortest x).text.toList else (shortest x).scientific.toList) := by
  split
  · obtain ⟨whole, fraction, numeral, alone, shown, reads⟩ := text_reads magnitude
    obtain ⟨places, literal, same⟩ := numeral_literal numeral alone Power.none
    rw [List.append_nil] at same
    refine ⟨⟨_, _, _, literal, ?_⟩, ?_⟩
    · rw [shown, String.toList_ofList, same]
    · rw [String.ofList_toList, reads]
      rfl
  · next scientific =>
    have some : 0 < (shortest x).digits := by
      refine Nat.pos_of_ne_zero fun zero => scientific ?_
      simp [zero]
    obtain ⟨head, tail, power, sign, numeral, other, marked, shown, reads⟩ :=
      scientific_reads magnitude some
    have alone : [head].head? = Option.some '0' → [head] = ['0'] := by
      intro zero
      cases zero
      exact absurd rfl other
    have digits := figures_numeral power
    have raised : Power ('e' :: sign :: figures power) := .raised marked ⟨digits.starts, mem_figures⟩
    obtain ⟨places, literal, same⟩ := numeral_literal numeral alone raised
    refine ⟨⟨_, _, _, literal, ?_⟩, ?_⟩
    · rw [shown, String.toList_ofList, same]
    · rw [String.ofList_toList, reads]
      rfl

theorem float_text {x : Float} (number : x.isNaN = false) (finite : x.isInf = false) :
    ∃ sign shown, (sign = [] ∨ sign = ['-']) ∧ Writes shown ∧ (floatText x).toList = sign ++ shown := by
  have writes : Writes (if (magnitudeDecimal x).digits = 0 || isPositional (magnitudeDecimal x).significant.2
      then (magnitudeDecimal x).text.toList else (magnitudeDecimal x).scientific.toList) :=
    magnitude_writes (abs_magnitude number finite)
  refine ⟨if isNegative x then ['-'] else [], _, ?_, writes, ?_⟩
  · split
    · exact .inr rfl
    · exact .inl rfl
  · unfold floatText
    generalize magnitudeDecimal x = decimal
    by_cases positional : (decimal.digits = 0 || isPositional decimal.significant.2) = true
    · rw [if_pos positional, if_pos positional, String.toList_append]
      cases isNegative x <;> rfl
    · rw [if_neg positional, if_neg positional, String.toList_append]
      cases isNegative x <;> rfl

def ofValue : Value → Json
  | .integer whole => .number (toString whole.toInt)
  | .float x =>
    if x.isNaN || x.isInf then .string (String.ofList (escapedText (Scriptlet.floatText x)))
    else .number (floatText x)
  | .string text => .string (String.ofList (escapedText text.shown))
  | .boolean truth => .bool truth
  | .nil => .null
  | .absent => .null

theorem natAbs_short (value : Int64) : value.toInt.natAbs < 2 ^ 64 := by
  have low := value.le_toInt
  have high := value.toInt_lt
  omega

/-- Every value is written as JSON, on one line, that is read back, with no number out of range. -/
theorem value_reads (room : Nat) (value : Value) :
    ReadsAs room value.toJson.toList (ofValue value) ∧
      '\n' ∉ value.toJson.toList ∧ (ofValue value).numbersFit = true := by
  cases value with
  | integer value =>
    have reads := signed_reads room (figures_writes (natAbs_short value)) (signOf_cases value.toInt)
    rw [← integer_text, String.ofList_toList] at reads
    exact reads
  | float value =>
    rw [Value.toJson, ofValue]
    split
    · exact ⟨string_reads room _, quote_line _, rfl⟩
    · next finite =>
      simp only [Bool.or_eq_true, not_or, Bool.not_eq_true] at finite
      obtain ⟨sign, shown, signed, writes, same⟩ := float_text finite.1 finite.2
      have reads := signed_reads room writes signed
      rw [← same, String.ofList_toList] at reads
      exact reads
  | string value => exact ⟨string_reads room value.shown, quote_line value.shown, rfl⟩
  | boolean value =>
    cases value with
    | true => exact ⟨(word_reads room).2.1, by decide, rfl⟩
    | false => exact ⟨(word_reads room).2.2, by decide, rfl⟩
  | nil => exact ⟨(word_reads room).1, by decide, rfl⟩
  | absent => exact ⟨(word_reads room).1, by decide, rfl⟩

end Scriptlet.Json
