import Mathlib
import Scriptlet.Proofs.JsonTexts
import Scriptlet.Text.Quoted

/-! Quoted texts are a code: where one starts, it can be told where it ends and what it quotes. No
escape of a character starts another's, and none starts with a quote, so the first quote that is not
escaped is the closing one. -/
namespace Scriptlet.Text

/-! Hexadecimal digits. -/

theorem hex_succ (width value : Nat) :
    (hex (width + 1) value).toList = hexDigit (value / Nat.pow 16 width) :: (hex width value).toList := by
  simp [hex, List.range_succ]

theorem length_hex (width value : Nat) : (hex width value).toList.length = width := by
  simp [hex]

theorem mod_of_hex {width value other : Nat} (same : (hex width value).toList = (hex width other).toList) :
    value % 16 ^ width = other % 16 ^ width := by
  induction width with
  | zero => simp [Nat.mod_one]
  | succ width ih =>
    simp only [hex_succ, List.cons.injEq] at same
    obtain ⟨leading, others⟩ := same
    have digit := congrArg Json.hexValue leading
    simp only [(Json.hexDigit_hex _).2, Nat.pow_eq] at digit
    rw [Nat.mod_pow_succ, Nat.mod_pow_succ, ih others, digit]

/-! Characters. -/

def letters : List (Char × Char) :=
  [('"', '"'), ('\\', '\\'), ('\x07', 'a'), ('\x08', 'b'), ('\x0c', 'f'), ('\n', 'n'), ('\r', 'r'),
   ('\t', 't'), ('\x0b', 'v')]

def widths : List (Char × Nat) := [('x', 2), ('u', 4), ('U', 8)]

inductive Escape (c : Char) : List Char → Prop
  | plain (noQuote : c ≠ '"') (noSlash : c ≠ '\\') : Escape c [c]
  | letter {mark : Char} (listed : (c, mark) ∈ letters) : Escape c ['\\', mark]
  | number {mark : Char} {width : Nat} (listed : (mark, width) ∈ widths) (fits : c.toNat < 16 ^ width) :
      Escape c ('\\' :: mark :: (hex width c.toNat).toList)

theorem escapeChar_escape (c : Char) : Escape c (escapeChar c).toList := by
  have long : c.toNat < 16 ^ 8 := (UInt32.toNat_lt c.val).trans_le (by decide)
  unfold escapeChar
  split
  all_goals try exact .letter (by decide)
  next noQuote noSlash _ _ _ _ _ _ _ =>
    split
    · rw [Char.toString, String.toList_singleton]
      exact .plain noQuote noSlash
    · split
      · next low => simpa using Escape.number (by decide : ('x', 2) ∈ widths) (Nat.lt_trans low (by decide))
      · split
        · next low => simpa using Escape.number (by decide) low
        · simpa using Escape.number (by decide) long

theorem letters_unique : ∀ entry ∈ letters, ∀ other ∈ letters, entry.2 = other.2 → entry = other := by
  decide

theorem widths_unique : ∀ entry ∈ widths, ∀ other ∈ widths, entry.1 = other.1 → entry = other := by
  decide

theorem letters_widths : ∀ entry ∈ letters, ∀ other ∈ widths, entry.2 ≠ other.1 := by
  decide

/-- No escape starts another: the character and what stands after it can be told. -/
theorem escape_cancel {c d : Char} {text other rest others : List Char} (escape : Escape c text)
    (escapeToo : Escape d other) (same : text ++ rest = other ++ others) : c = d ∧ rest = others := by
  cases escape with
  | plain _ noSlash =>
    cases escapeToo with
    | plain => simpa using same
    | letter | number => exact absurd (List.cons.inj same).1 noSlash
  | @letter mark listed =>
    cases escapeToo with
    | plain _ noSlash => exact absurd (List.cons.inj same).1.symm noSlash
    | letter listedToo =>
      simp only [List.cons_append, List.nil_append, List.cons.injEq, true_and] at same
      obtain ⟨sameMark, sameRest⟩ := same
      exact ⟨congrArg Prod.fst (letters_unique _ listed _ listedToo sameMark), sameRest⟩
    | number listedToo =>
      simp only [List.cons_append, List.nil_append, List.cons.injEq, true_and] at same
      exact absurd same.1 (letters_widths _ listed _ listedToo)
  | @number mark width listed fits =>
    cases escapeToo with
    | plain _ noSlash => exact absurd (List.cons.inj same).1.symm noSlash
    | letter listedToo =>
      simp only [List.cons_append, List.nil_append, List.cons.injEq, true_and] at same
      exact absurd same.1.symm (letters_widths _ listedToo _ listed)
    | @number markToo widthToo listedToo fitsToo =>
      simp only [List.cons_append, List.cons.injEq, true_and] at same
      obtain ⟨sameMark, sameRest⟩ := same
      -- The letter fixes how many digits follow, and the digits the number.
      obtain rfl : width = widthToo :=
        congrArg Prod.snd (widths_unique _ listed _ listedToo sameMark)
      obtain ⟨digits, after⟩ := List.append_inj sameRest (by simp only [length_hex])
      have number := mod_of_hex digits
      rw [Nat.mod_eq_of_lt fits, Nat.mod_eq_of_lt fitsToo] at number
      exact ⟨Char.toNat_inj.mp number, after⟩

theorem escape_opens {c : Char} {text : List Char} (escape : Escape c text) (rest others : List Char) :
    text ++ rest ≠ '"' :: others := by
  cases escape with
  | plain noQuote => exact fun same => noQuote (List.cons.inj same).1
  | letter | number => exact fun same => absurd (List.cons.inj same).1 (by decide)

/-! Texts. -/

theorem quote_eq (text : String) :
    (quote text).toList = '"' :: (text.toList.flatMap (fun c => (escapeChar c).toList) ++ ['"']) := by
  have inside (chars : List Char) : (String.join (chars.map escapeChar)).toList =
      chars.flatMap fun c => (escapeChar c).toList := by
    induction chars with
    | nil => rfl
    | cons c rest ih => simp [String.join_cons, ih]
  simp [quote, quotePieces, piecesOfText, ← inside, Function.comp_def, escapePiece]

theorem escaped_cancel {text other rest others : List Char}
    (same : text.flatMap (fun c => (escapeChar c).toList) ++ '"' :: rest =
      other.flatMap (fun c => (escapeChar c).toList) ++ '"' :: others) : text = other ∧ rest = others := by
  induction text generalizing other with
  | nil =>
    cases other with
    | nil => simpa using same
    | cons d otherRest =>
      rw [List.flatMap_cons, List.append_assoc] at same
      exact absurd same.symm (escape_opens (escapeChar_escape d) _ _)
  | cons c textRest ih =>
    cases other with
    | nil =>
      rw [List.flatMap_cons, List.append_assoc] at same
      exact absurd same (escape_opens (escapeChar_escape c) _ _)
    | cons d otherRest =>
      rw [List.flatMap_cons, List.append_assoc, List.flatMap_cons, List.append_assoc] at same
      obtain ⟨rfl, further⟩ := escape_cancel (escapeChar_escape c) (escapeChar_escape d) same
      obtain ⟨rfl, after⟩ := ih further
      exact ⟨rfl, after⟩

/-- A quoted text at the start of another can be told, whatever stands after it. -/
theorem quote_cancel {text other : String} {rest others : List Char}
    (same : (quote text).toList ++ rest = (quote other).toList ++ others) :
    text = other ∧ rest = others := by
  simp only [quote_eq, List.cons_append, List.append_assoc, List.nil_append, List.cons.injEq,
    true_and] at same
  obtain ⟨chars, after⟩ := escaped_cancel same
  exact ⟨String.toList_inj.mp chars, after⟩

end Scriptlet.Text
