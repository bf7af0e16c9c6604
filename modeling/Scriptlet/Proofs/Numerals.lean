import Scriptlet.Proofs.Lexemes
import Scriptlet.Proofs.ShortestDecimals
import Scriptlet.Syntax.Literal
import Scriptlet.Syntax.Spelling

/-! Numbers as they are spelled read back as they are: integers by their figures, and floating-point
numbers by those of their shortest decimals. -/
namespace Scriptlet.Decimal

open Binary64

theorem isFigure_iff {c : Char} : isFigure c = true ↔ 48 ≤ c.toNat ∧ c.toNat ≤ 57 := by
  simp [isFigure, Char.le_def, UInt32.le_iff_toNat_le]

structure Numeral (whole fraction : List Char) : Prop where
  starts : whole ≠ []
  figures : ∀ c ∈ whole ++ fraction, isFigure c = true

def Numeral.text (whole fraction : List Char) : List Char :=
  whole ++ if fraction.isEmpty then [] else '.' :: fraction

theorem Numeral.text_whole (whole : List Char) : text whole [] = whole := by
  simp [text]

theorem valueOf_eq {shown : List Char} (all : ∀ c ∈ shown, isFigure c = true) (value : Nat) :
    shown.foldl (fun value c => value * 10 + figureValue c) value = Nat.ofDigitChars 10 shown value := by
  induction shown generalizing value with
  | nil => rfl
  | cons c rest ih =>
    have figure := all c List.mem_cons_self
    rw [List.foldl_cons, Nat.ofDigitChars_cons, ih fun d member => all d (List.mem_cons_of_mem c member),
      figureValue, if_pos figure, Nat.mul_comm]

theorem mem_figures {value : Nat} : ∀ c ∈ figures value, isFigure c = true := by
  intro c member
  have digit := Nat.isDigit_of_mem_toDigits (by decide) (by decide) member
  rw [isFigure_iff]
  simp only [Char.isDigit, ge_iff_le, Bool.and_eq_true, decide_eq_true_eq,
    UInt32.le_iff_toNat_le] at digit
  exact digit

theorem mem_padded (zeros value : Nat) :
    ∀ c ∈ List.replicate zeros '0' ++ figures value, isFigure c = true := by
  intro c member
  rcases List.mem_append.mp member with padding | figure
  · rw [List.eq_of_mem_replicate padding]
    rfl
  · exact mem_figures c figure

theorem valueOf_padded (zeros value : Nat) :
    valueOf 10 (List.replicate zeros '0' ++ figures value) = value := by
  rw [valueOf, valueOf_eq (mem_padded zeros value), Nat.ofDigitChars_append,
    Nat.ofDigitChars_replicate_zero, Nat.mul_zero]
  exact Nat.ofDigitChars_ten_toDigits

theorem valueOf_snoc (shown : List Char) (c : Char) :
    valueOf 10 (shown ++ [c]) = valueOf 10 shown * 10 + figureValue c := by
  simp [valueOf]

theorem signed_figure {c : Char} (figure : isFigure c = true) (rest : List Char) :
    signed (c :: rest) = (false, c :: rest) := by
  unfold signed
  split
  · next same =>
    cases same
    exact absurd figure (by decide)
  · next same =>
    cases same
    exact absurd figure (by decide)
  · rfl

theorem toLower_figure {c : Char} (figure : isFigure c = true) : c.toLower = c := by
  have high := (isFigure_iff.mp figure).2
  unfold Char.toLower
  split
  · next letter =>
    have low : 65 ≤ c.toNat := letter.1
    omega
  · rfl

theorem lower_ne {c d : Char} (figure : isFigure c = true) (other : isFigure d = false)
    (rest name : List Char) :
    (String.ofList ((c :: rest).map Char.toLower) == String.ofList (d :: name)) = false := by
  refine beq_eq_false_iff_ne.mpr fun same => ?_
  have heads := congrArg String.toList same
  rw [String.toList_ofList, String.toList_ofList, List.map_cons, toLower_figure figure] at heads
  cases heads
  rw [figure] at other
  cases other

theorem readFloat_plain {c : Char} {rest : List Char} (figure : isFigure c = true)
    (noMark : ∀ mark more, rest = mark :: more → (mark == 'x' || mark == 'X') = false) :
    readFloat? (String.ofList (c :: rest)) = readDecimal? (c :: rest) := by
  -- Figures without the mark of a base are read as a decimal: there is no sign before them, and they are
  -- no name.
  have number := lower_ne figure (d := 'n') (by decide) rest ['a', 'n']
  have finite : isInfinity (c :: rest) = false := by
    simp only [isInfinity, Bool.or_eq_false_iff]
    exact ⟨lower_ne figure (by decide) rest _, lower_ne figure (by decide) rest _⟩
  have unsigned : readUnsigned? (c :: rest) = readDecimal? (c :: rest) := by
    unfold readUnsigned?
    rw [finite]
    simp only [Bool.false_eq_true, if_false]
    split
    · next mark more same =>
      cases same
      simp [noMark mark more rfl]
    · rfl
  rw [readFloat?, String.toList_ofList, if_neg (by simpa using number), signed_figure figure]
  exact unsigned

theorem underscoresFit_plain {digit : Char → Bool} {text : List Char} (plain : ∀ c ∈ text, c ≠ '_')
    (afterDigit : Bool) : underscoresFit digit afterDigit text = true := by
  induction text generalizing afterDigit with
  | nil => rfl
  | cons c rest ih =>
    have others := ih fun d member => plain d (List.mem_cons_of_mem c member)
    unfold underscoresFit
    split
    · rfl
    · next same =>
      cases same
      exact absurd rfl (plain '_' List.mem_cons_self)
    · next same =>
      cases same
      exact others _

namespace Numeral

variable {whole fraction : List Char} (numeral : Numeral whole fraction)

include numeral

theorem mem_text : ∀ c ∈ text whole fraction, isFigure c = true ∨ c = '.' := by
  intro c member
  unfold text at member
  rcases List.mem_append.mp member with front | back
  · exact .inl (numeral.figures c (List.mem_append_left fraction front))
  · split at back
    · cases back
    · rcases List.mem_cons.mp back with point | place
      · exact .inr point
      · exact .inl (numeral.figures c (List.mem_append_right whole place))

theorem written : written? isFigure ['e', 'E'] (text whole fraction) = some ⟨whole, fraction, none⟩ := by
  have plain {shown : List Char} (all : ∀ c ∈ shown, isFigure c = true) :
      ∀ c ∈ shown, (isFigure c || c == '_') = true := fun c member => by simp [all c member]
  have front := fun c member => numeral.figures c (List.mem_append_left fraction member)
  have back := fun c member => numeral.figures c (List.mem_append_right whole member)
  -- The figures stop at the end of the text or at the point.
  have ends : Segment.Bars (fun c => isFigure c || c == '_') [] := fun c head => nomatch head
  have point : Segment.Bars (fun c => isFigure c || c == '_') ('.' :: fraction) := by
    rintro c head
    cases head
    rfl
  have some : whole.isEmpty = false := by simpa using numeral.starts
  unfold text
  split
  · next none =>
    obtain rfl := List.isEmpty_iff.mp none
    simp only [written?, Segment.takeWhile_span (plain front) ends,
      Segment.dropWhile_span (plain front) ends, List.filter_eq_self.mpr front, some, Bool.false_and,
      Bool.false_eq_true, if_false]
  · have rest := List.append_nil fraction
    have taken := Segment.takeWhile_span (plain back) ends
    have dropped := Segment.dropWhile_span (plain back) ends
    rw [rest] at taken dropped
    simp only [written?, Segment.takeWhile_span (plain front) point,
      Segment.dropWhile_span (plain front) point, List.filter_eq_self.mpr front, taken, dropped,
      List.filter_eq_self.mpr back, some, Bool.false_and, Bool.false_eq_true, if_false]

theorem readFloat : readFloat? (String.ofList (text whole fraction)) =
    decimalFloat? (valueOf 10 (whole ++ fraction)) fraction.length 0 := by
  have differs {c : Char} (other : isFigure c = false ∧ c ≠ '.') : ∀ d ∈ text whole fraction, d ≠ c := by
    rintro d member rfl
    rcases numeral.mem_text d member with figure | point
    · rw [figure] at other
      cases other.1
    · exact other.2 point
  have written := numeral.written
  have decimal : readDecimal? (text whole fraction) =
      decimalFloat? (valueOf 10 (whole ++ fraction)) fraction.length 0 := by
    simp only [readDecimal?, written, underscoresFit_plain (differs (by decide)), Option.bind_eq_bind,
      Option.bind_some, if_true, Option.getD_none]
  obtain ⟨c, tail, starts⟩ := List.exists_cons_of_ne_nil numeral.starts
  have figure : isFigure c = true := numeral.figures c (by simp [starts])
  obtain ⟨rest, same⟩ : ∃ rest, text whole fraction = c :: rest :=
    ⟨_, by rw [text, starts, List.cons_append]⟩
  rw [← decimal, same]
  refine readFloat_plain figure ?_
  rintro mark more rfl
  have member : mark ∈ text whole fraction := by simp [same]
  simp [differs (c := 'x') (by decide) mark member, differs (c := 'X') (by decide) mark member]

theorem readInteger_point (point : fraction ≠ []) :
    readInteger? (String.ofList (text whole fraction)) = none := by
  obtain ⟨c, tail, starts⟩ := List.exists_cons_of_ne_nil numeral.starts
  have figure : isFigure c = true := numeral.figures c (by simp [starts])
  have same : text whole fraction = c :: (tail ++ '.' :: fraction) := by simp [text, starts, point]
  have mixed : (text whole fraction).all isFigure = false := by
    rw [List.all_eq_false]
    exact ⟨'.', by simp [same], by decide⟩
  rw [same] at mixed ⊢
  simp only [readInteger?, String.toList_ofList, signed_figure figure, mixed, List.isEmpty_cons,
    Bool.not_false, Bool.or_true, if_true]

end Numeral

theorem readInteger_figures {shown : List Char} (numeral : Numeral shown []) :
    readInteger? (String.ofList shown) =
      if valueOf 10 shown < 2 ^ 63 then some (Int64.ofInt (valueOf 10 shown)) else none := by
  obtain ⟨c, rest, rfl⟩ := List.exists_cons_of_ne_nil numeral.starts
  have all : ∀ d ∈ c :: rest, isFigure d = true := fun d member =>
    numeral.figures d (List.mem_append_left [] member)
  have figures : (c :: rest).all isFigure = true := List.all_eq_true.mpr all
  simp only [readInteger?, String.toList_ofList, signed_figure (all c List.mem_cons_self), figures,
    List.isEmpty_cons, Bool.not_true, Bool.or_false, Bool.false_eq_true, if_false]
  rfl

theorem figures_numeral (value : Nat) : Numeral (figures value) [] :=
  ⟨Nat.toDigits_ne_nil, by simpa using mem_figures⟩

theorem valueOf_figures (value : Nat) : valueOf 10 (figures value) = value :=
  valueOf_padded 0 value

/-- The spelling of an integer that was read has no point, and reads back as the integer. -/
theorem spelling_integer {shown : List Char} (numeral : Numeral shown []) {value : Int64}
    (read : readInteger? (String.ofList shown) = some value) :
    ∃ whole, Numeral whole [] ∧ Spelling.integer value = String.ofList whole ∧
      readInteger? (Spelling.integer value) = some value := by
  rw [readInteger_figures numeral] at read
  split at read
  · next fits =>
    cases read
    have same : (Int64.ofInt (valueOf 10 shown)).toInt = valueOf 10 shown :=
      Int64.toInt_ofInt_of_le (by omega) (by omega)
    generalize valueOf 10 shown = count at *
    have spelled : Spelling.integer (Int64.ofInt count) = String.ofList (figures count) := by
      rw [Spelling.integer, same]
      exact Nat.repr_eq_ofList_toDigits
    refine ⟨figures count, figures_numeral count, spelled, ?_⟩
    rw [spelled, readInteger_figures (figures_numeral count), valueOf_figures, if_pos fits]
  · cases read

theorem decimalFloat_magnitude {mantissa places : Nat} {exponent : Int} {x : Float}
    (read : decimalFloat? mantissa places exponent = some x) : Magnitude x := by
  have finite {decimal : Decimal} (read : finite? decimal.nearest = some x) : Magnitude x := by
    unfold finite? at read
    split at read
    · cases read
    · next bounded =>
      cases read
      exact magnitude_of_finite (nearest_unsigned decimal) (Bool.eq_false_iff.mpr bounded)
  simp only [decimalFloat?] at read
  split at read
  · cases read
    exact magnitude_zero
  · split at read
    · cases read
    · split at read
      · cases read
        exact magnitude_zero
      · exact finite read

/-- The figures of a decimal before its point say where it lies between powers of ten. -/
theorem size_bounds {mantissa : Nat} (some : 0 < mantissa) (places : Nat) :
    (10 : ℚ) ^ ((figures mantissa).length - places - 1 : Int) ≤ mantissa / 10 ^ places ∧
      (mantissa / 10 ^ places : ℚ) < 10 ^ ((figures mantissa).length - places : Int) := by
  have shown : 0 < (figures mantissa).length := Nat.length_toDigits_pos
  obtain ⟨low, high⟩ := figures_bounds some
  generalize (figures mantissa).length = length at *
  have scale : (0 : ℚ) < 10 ^ places := by positivity
  have first : (length : Int) - places - 1 = ((length - 1 : Nat) : Int) - (places : Int) := by omega
  rw [first, zpow_sub₀ (by norm_num), zpow_sub₀ (by norm_num), zpow_natCast, zpow_natCast, zpow_natCast]
  exact ⟨(div_le_div_iff_of_pos_right scale).mpr (by exact_mod_cast low),
    (div_lt_div_iff_of_pos_right scale).mpr (by exact_mod_cast high)⟩

theorem decimalFloat_inRange {mantissa places : Nat} (some : 0 < mantissa)
    (range : InRange (mantissa / 10 ^ places)) :
    decimalFloat? mantissa places 0 = finite? (normal ⟨mantissa, places⟩).nearest := by
  obtain ⟨least, most⟩ := range
  obtain ⟨low, high⟩ := size_bounds some places
  have upper := (zpow_lt_zpow_iff_right₀ (by norm_num)).mp (low.trans_lt most)
  have lower := (zpow_lt_zpow_iff_right₀ (by norm_num)).mp (least.trans_lt high)
  simp only [decimalFloat?]
  rw [if_neg (Nat.ne_of_gt some), if_neg (by omega), if_neg (by omega)]
  exact congrArg (fun digits => finite? (normal ⟨digits, places⟩).nearest) (Nat.mul_one mantissa)

theorem head_figures {value : Nat} (some : 0 < value) : (figures value).head? ≠ Option.some '0' := by
  unfold figures
  induction value using Nat.strongRecOn with
  | ind value ih =>
    by_cases small : value < 10
    · rw [Nat.toDigits_of_lt_base small]
      interval_cases value <;> decide
    · rw [Nat.toDigits_of_base_le (by decide) (by omega), List.head?_append]
      have front := ih (value / 10) (by omega) (by omega)
      cases starts : (Nat.toDigits 10 (value / 10)).head? with
      | none => exact absurd (List.head?_eq_none_iff.mp starts) Nat.toDigits_ne_nil
      | some c =>
        rw [starts] at front
        exact front

theorem padded_alone {digits places : Nat} {padded : List Char}
    (paddedIs : List.replicate (places + 1 - (figures digits).length) '0' ++ figures digits = padded)
    (zero : (padded.take (padded.length - places)).head? = some '0') :
    padded.take (padded.length - places) = ['0'] := by
  -- A zero in front of the point stands alone: zeros are added only up to there.
  subst paddedIs
  by_cases longer : places < (figures digits).length
  · rw [Nat.sub_eq_zero_of_le longer, List.replicate_zero, List.nil_append] at zero ⊢
    rw [List.head?_take, if_neg (by omega)] at zero
    have none : digits = 0 := Nat.eq_zero_of_not_pos fun some => head_figures some zero
    have single : figures digits = ['0'] := by
      rw [none]
      rfl
    rw [single, List.length_singleton] at longer ⊢
    rw [Nat.lt_one_iff.mp longer]
    rfl
  · obtain ⟨zeros, count⟩ : ∃ zeros, places + 1 - (figures digits).length = zeros + 1 :=
      ⟨places - (figures digits).length, by omega⟩
    rw [count, List.replicate_succ, List.cons_append, List.length_cons, List.length_append,
      List.length_replicate, show zeros + (figures digits).length + 1 - places = 1 by omega]
    rfl

theorem text_numeral (decimal : Decimal) : ∃ whole fraction, Numeral whole fraction ∧
    decimal.text = String.ofList (Numeral.text whole fraction) ∧ fraction.length = decimal.places ∧
      valueOf 10 (whole ++ fraction) = decimal.digits ∧ (whole.head? = some '0' → whole = ['0']) := by
  generalize paddedIs : List.replicate (decimal.places + 1 - (figures decimal.digits).length) '0' ++
    figures decimal.digits = padded
  have long : decimal.places < padded.length := by
    rw [← paddedIs, List.length_append, List.length_replicate]
    omega
  have all : ∀ c ∈ padded, isFigure c = true := by
    rw [← paddedIs]
    exact mem_padded _ _
  have parts : decimal.parts = (padded.take (padded.length - decimal.places),
      padded.drop (padded.length - decimal.places)) := by
    rw [Decimal.parts, ← paddedIs]
    exact List.splitAt_eq
  -- Zeros in front make room for the places, and change nothing of the value.
  have joined := List.take_append_drop (padded.length - decimal.places) padded
  have places : (padded.drop (padded.length - decimal.places)).length = decimal.places := by
    rw [List.length_drop]
    omega
  have starts : (padded.take (padded.length - decimal.places)).length ≠ 0 := by
    rw [List.length_take]
    omega
  have value : valueOf 10 padded = decimal.digits := by
    rw [← paddedIs]
    exact valueOf_padded _ _
  have alone := padded_alone paddedIs
  rw [Decimal.text, parts]
  generalize padded.take (padded.length - decimal.places) = whole at *
  generalize padded.drop (padded.length - decimal.places) = fraction at *
  subst joined
  refine ⟨whole, fraction, ⟨fun none => starts (by simp [none]), all⟩, ?_, places, value, alone⟩
  cases fraction with
  | nil => simp [Numeral.text]
  | cons c rest => rfl

theorem normal_tenfold (digits : Nat) : normal ⟨digits * 10, 1⟩ = ⟨digits, 0⟩ := by
  simp [normal, trimmed]

/-- A number is read back from any decimal that is its shortest with zeros after it. -/
theorem read_shortest {x : Float} (magnitude : Magnitude x) {mantissa places : Nat}
    (same : normal ⟨mantissa, places⟩ = shortest x) : decimalFloat? mantissa places 0 = some x := by
  have equal : (mantissa / 10 ^ places : ℚ) = (shortest x).value := by
    rw [← same, normal_value]
    rfl
  by_cases zero : x.toBits.toNat = 0
  · obtain rfl : x = 0 := eq_of_toBits zero
    have none : mantissa = 0 := by
      rw [shortest_zero, div_eq_iff (by positivity)] at equal
      simpa [Decimal.value] using equal
    simp [decimalFloat?, none]
  · obtain ⟨reads, -, range⟩ := shortest_reads magnitude zero
    rw [← equal] at range
    have some : 0 < mantissa := by
      refine Nat.pos_of_ne_zero fun none => ?_
      have least := range.1
      rw [none, Nat.cast_zero, zero_div] at least
      exact absurd least (not_le.mpr (zpow_pos (by norm_num) _))
    rw [decimalFloat_inRange some range, same, reads, finite?, magnitude.isInf]
    rfl

theorem shortest_trim {x : Float} (magnitude : Magnitude x) : (shortest x).normal = shortest x := by
  by_cases zero : x.toBits.toNat = 0
  · obtain rfl : x = 0 := eq_of_toBits zero
    rw [shortest_zero]
    rfl
  · exact trimmed_trim (shortest_reads magnitude zero).2.1

theorem floatText_magnitude {x : Float} (magnitude : Magnitude x) : floatText x = (shortest x).text := by
  simp only [floatText, magnitude.isNaN, magnitude.isInf, magnitude.isNegative, magnitudeDecimal,
    magnitude.abs, Bool.false_eq_true, if_false, String.empty_append]

/-- The spelling of a finite number without a sign has a point, and reads back as the number. -/
theorem spelling_float {x : Float} (magnitude : Magnitude x) : ∃ whole fraction,
    Numeral whole fraction ∧ fraction ≠ [] ∧
      Spelling.float x = String.ofList (Numeral.text whole fraction) ∧
      readFloat? (Spelling.float x) = some x := by
  obtain ⟨whole, fraction, numeral, shown, places, digits, -⟩ := text_numeral (shortest x)
  have spelled : Spelling.float x = if '.' ∈ Numeral.text whole fraction
      then String.ofList (Numeral.text whole fraction)
      else String.ofList (Numeral.text whole fraction) ++ ".0" := by
    simp [Spelling.float, floatText_magnitude magnitude, shown]
  by_cases none : fraction = []
  · subst none
    have noPoint : '.' ∉ Numeral.text whole [] := by
      intro member
      exact absurd (numeral.figures '.' member) (by decide)
    -- A whole number gets a zero after a point: ten times the digits, with one place.
    have longer : Numeral whole ['0'] := by
      refine ⟨numeral.starts, fun c member => ?_⟩
      rcases List.mem_append.mp member with front | back
      · exact numeral.figures c (List.mem_append_left [] front)
      · rw [List.mem_singleton.mp back]
        rfl
    have same : Spelling.float x = String.ofList (Numeral.text whole ['0']) := by
      rw [spelled, if_neg noPoint]
      exact String.toList_injective (by simp [Numeral.text])
    refine ⟨whole, ['0'], longer, by simp, same, ?_⟩
    rw [same, longer.readFloat]
    refine read_shortest magnitude ?_
    rw [List.append_nil] at digits
    rw [valueOf_snoc, digits]
    refine (normal_tenfold _).trans ?_
    rw [List.length_nil] at places
    rw [places]
  · have point : '.' ∈ Numeral.text whole fraction := by simp [Numeral.text, none]
    rw [if_pos point] at spelled
    refine ⟨whole, fraction, numeral, none, spelled, ?_⟩
    rw [spelled, numeral.readFloat, digits, places]
    exact read_shortest magnitude (shortest_trim magnitude)

end Scriptlet.Decimal
