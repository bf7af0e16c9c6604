import Scriptlet.Proofs.RoundTrip

/-! Tokens written again with blanks between them. Each lexeme is whole and nothing but a blank comes
right after it, so the scanner finds the same tokens again, whatever stood between them before. -/
namespace Scriptlet

structure Gap where
  text : String
  some : text ≠ ""
  blank : ∀ c ∈ text.toList, c ∈ Segment.blanks

def respaced : List Token → List Gap → String
  | [], _ => ""
  | token :: _, [] => token.lexeme.shown
  | token :: rest, gap :: gaps => token.lexeme.shown ++ gap.text ++ respaced rest gaps

open Segment

theorem Gap.detached (gap : Gap) (kind : TokenKind) (rest : List Char) :
    Detached kind (gap.text.toList ++ rest) := by
  obtain ⟨c, more, starts⟩ : ∃ c more, gap.text.toList = c :: more :=
    List.exists_cons_of_ne_nil (by simpa using gap.some)
  rw [starts, List.cons_append]
  exact detached_blank kind (gap.blank c (starts ▸ List.mem_cons_self)) _

namespace Yields

variable {more : List Char} {shape : List Token → Prop}

theorem blankText {text : List Char} (isBlank : ∀ c ∈ text, c ∈ blanks) (yields : Yields more shape) :
    Yields (text ++ more) shape := by
  induction text with
  | nil => exact yields
  | cons c text ih =>
    obtain ⟨first, others⟩ := List.forall_mem_cons.mp isBlank
    exact blank first (ih others)

end Yields

/-- A text of scanned tokens with a gap between any two yields these tokens. -/
theorem respaced_yields {tokens : List Token} {gaps : List Gap}
    (scanned : ∀ token ∈ tokens, token.Scanned) (between : gaps.length = tokens.length - 1) :
    Yields (respaced tokens gaps).toList (List.Forall₂ Token.Same tokens) := by
  fun_induction respaced tokens gaps with
  | case1 gaps =>
    refine Yields.nil.weaken ?_
    rintro _ rfl
    exact .nil
  | case2 token rest =>
    obtain ⟨⟨line, kind, text, rfl, lexeme⟩, -⟩ := List.forall_mem_cons.mp scanned
    obtain rfl : rest = [] := by simpa using between.symm
    have shown : (Scan.token line kind text).lexeme.shown.toList = text := String.toList_ofList
    rw [shown]
    refine (Yields.lexeme lexeme).weaken ?_
    rintro _ ⟨place, rfl⟩
    exact .cons (token_same _ _ _ _) .nil
  | case3 token rest gap gaps ih =>
    obtain ⟨⟨line, kind, text, rfl, lexeme⟩, others⟩ := List.forall_mem_cons.mp scanned
    have further := ih others (Nat.eq_sub_of_add_eq between)
    have shown : (Scan.token line kind text).lexeme.shown.toList = text := String.toList_ofList
    rw [String.toList_append, String.toList_append, shown, List.append_assoc]
    refine (Yields.before lexeme (fun tail _ => ?_) (further.blankText gap.blank)).weaken ?_
    · rw [List.append_assoc]
      exact gap.detached kind _
    · rintro _ ⟨_, copies, rfl, ⟨place, rfl⟩, same⟩
      exact .cons (token_same _ _ _ _) same

theorem filter_scan_tokens (source : String) :
    (scan source).tokens.filter (fun token => !token.isEnd) = Scan.words source := by
  rw [Scan.scan_tokens, List.filter_append, List.filter_eq_self.mpr]
  · exact List.append_nil _
  · intro token member
    rw [Scan.words_inner source token member]
    rfl

/-- Tokens outlast the blanks and comments around them. The tokens of any source text, faulty or not,
written again with any gaps between them, are scanned without an error as the same tokens, in the same
order, and then the end of the input. -/
theorem tokens_survive_respacing (source : String) (gaps : List Gap)
    (between : gaps.length = ((scan source).tokens.filter fun token => !token.isEnd).length - 1) :
    let words := (scan source).tokens.filter fun token => !token.isEnd
    let again := scan (respaced words gaps)
    again.errors = [] ∧ ∃ copies line, again.tokens = copies ++ [.endOfInput line] ∧
      List.Forall₂ Token.Same words copies := by
  intro words again
  have listed : words = Scan.words source := filter_scan_tokens source
  have scanned : ∀ token ∈ words, token.Scanned := by
    rw [listed]
    exact words_scanned source
  obtain ⟨clean, same⟩ := (respaced_yields scanned between).scanned
  exact ⟨Scan.scan_clean.mpr clean, _, _, Scan.scan_tokens _, same⟩

/-- A point behind a number with a fraction, an operator behind a comment, and a character that starts
nothing, which is not written again. -/
theorem tokens_survive_respacing_faulty :
    let source := "1.5.x/*c*/>=@\"a b\""
    let words := (scan source).tokens.filter fun token => !token.isEnd
    let tab : Gap := ⟨"\t", by decide, by simp [blanks]⟩
    let lines : Gap := ⟨" \r\n\n", by decide, by simp [blanks]⟩
    let again := scan (respaced words [tab, lines, tab, lines])
    (scan source).errors = [⟨1, .unexpectedCharacter⟩] ∧
      [tab, lines, tab, lines].length = words.length - 1 ∧
      respaced words [tab, lines, tab, lines] = "1.5\t. \r\n\nx\t>= \r\n\n\"a b\"" ∧
      again.errors = [] ∧ ∃ copies line, again.tokens = copies ++ [.endOfInput line] ∧
        List.Forall₂ Token.Same words copies := by
  dsimp only
  refine ⟨by cbv, by cbv, by cbv, ?_⟩
  exact tokens_survive_respacing _ _ (by cbv)

end Scriptlet
