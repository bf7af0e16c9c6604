import Scriptlet.Proofs.Scanning

/-! Nothing of a text is lost in scanning. The tokens and errors of a text are its token segments and its
faulty stretches, each with the line where it stands. -/
namespace Scriptlet

namespace Segment

def isToken : Segment → Bool
  | token .. => true
  | _ => false

def isFault : Segment → Bool
  | fault .. => true
  | _ => false

def located (before : List Char) : List Segment → List (List Char × Segment)
  | [] => []
  | segment :: rest => (before, segment) :: located (before ++ segment.text) rest

end Segment

open Segment

/-- The literal of a token by its class: a sign or a number has its own text, a string what stands
between its first and its last character, and a word has none. -/
inductive LiteralOf : TokenKind → List Char → List Char → Prop
  | sign {kind : TokenKind} {text : List Char} (listed : (kind, text) ∈ signs) : LiteralOf kind text text
  | number {kind : TokenKind} {text : List Char} (isNumber : kind = .integer ∨ kind = .float) :
      LiteralOf kind text text
  | string {first last : Char} {inside : List Char} :
      LiteralOf .string (first :: (inside ++ [last])) inside
  | word {kind : TokenKind} {text : List Char} (isWord : kind = .identifier ∨ kind.isReserved = true) :
      LiteralOf kind text []

def lineAfter (text : List Char) : Int := 1 + text.count '\n'

def TokenAt : List Char × Segment → Token → Prop
  | (before, .token kind text), found =>
    found.kind = kind ∧ found.lexeme = String.ofList text ∧ found.line = lineAfter before ∧
      ∃ literal, LiteralOf kind text literal ∧ found.literal = String.ofList literal
  | _, _ => False

def ErrorAt : List Char × Segment → LexicalError → Prop
  | (before, .fault cause text), error => error.cause = cause ∧ error.line = lineAfter (before ++ text)
  | _, _ => False

theorem signs_plain : ∀ entry ∈ signs, entry.1 ≠ .string ∧ entry.1 ≠ .identifier ∧
    entry.1.isReserved = false := by
  decide

theorem literal_of_lexeme {kind : TokenKind} {text : List Char} (lexeme : Lexeme kind text) :
    ∃ literal, LiteralOf kind text literal ∧ Scan.literal kind text = String.ofList literal := by
  cases lexeme with
  | sign listed =>
    obtain ⟨noString, noName, noWord⟩ := signs_plain _ listed
    refine ⟨text, .sign listed, ?_⟩
    unfold Scan.literal
    split
    · exact absurd rfl noString
    · exact absurd rfl noName
    · rw [if_neg (by simp [noWord])]
  | quoted | rawQuoted => exact ⟨_, .string, by simp [Scan.literal]⟩
  | integer => exact ⟨_, .number (.inl rfl), rfl⟩
  | float => exact ⟨_, .number (.inr rfl), rfl⟩
  | @word c letters => exact ⟨[], .word (ofWord_isWord _), Scan.literal_word _ _⟩

theorem lineAfter_append (before : List Char) (segment : Segment) :
    lineAfter (before ++ segment.text) = lineAfter before + segment.lineBreaks := by
  simp [lineAfter, lineBreaks, Int.add_assoc]

/-- The tokens of a text are its token segments, in order. -/
theorem placed_located (before : List Char) {parts : List Segment}
    (lexemes : ∀ kind text, Segment.token kind text ∈ parts → Lexeme kind text) :
    List.Forall₂ TokenAt ((located before parts).filter (·.2.isToken))
      (Scan.placed (lineAfter before) parts) := by
  induction parts generalizing before with
  | nil => exact .nil
  | cons segment rest ih =>
    have further := ih (before ++ segment.text)
      fun kind text member => lexemes kind text (List.mem_cons_of_mem _ member)
    rw [lineAfter_append] at further
    cases segment with
    | token kind text =>
      have literal := literal_of_lexeme (lexemes kind text List.mem_cons_self)
      obtain ⟨literal, isLiteral, same⟩ := literal
      exact .cons ⟨rfl, rfl, rfl, literal, isLiteral, congrArg _ same⟩ further
    | blank c => exact further
    | comment text => exact further
    | fault cause text => exact further

theorem errorsFrom_located (before : List Char) (parts : List Segment) :
    List.Forall₂ ErrorAt ((located before parts).filter (·.2.isFault))
      (Scan.errorsFrom (lineAfter before) parts) := by
  induction parts generalizing before with
  | nil => exact .nil
  | cons segment rest ih =>
    have further := ih (before ++ segment.text)
    rw [lineAfter_append] at further
    cases segment with
    | fault cause text => exact .cons ⟨rfl, (lineAfter_append before _).symm⟩ further
    | token kind text => exact further
    | blank c => exact further
    | comment text => exact further

theorem breaks_eq (parts : List Segment) : Scan.breaks parts = (parts.flatMap Segment.text).count '\n' := by
  induction parts with
  | nil => rfl
  | cons segment rest ih => simp [Scan.breaks, ih, lineBreaks]

theorem breaks_segments (source : List Char) : Scan.breaks (segments source) = source.count '\n' := by
  rw [breaks_eq, (segmented_text (segments_segmented source)).1]

/-- Scanning is lossless and its positions are right. A source text is cut into segments that are not
empty and make up the text, each a token, a blank, a comment or a faulty stretch. The tokens are the token
segments in their order, each with its segment as lexeme, the literal of its class and the line it starts
on, and then one that ends them, on the last line; the errors are the faulty stretches in their order,
each on the line its stretch ends on. -/
theorem scanning_is_lossless (source : String) :
    ∃ parts, Segmented source.toList parts ∧ parts.flatMap Segment.text = source.toList ∧
      (∀ part ∈ parts, part.text ≠ []) ∧
      (∃ words, (scan source).tokens = words ++ [.endOfInput (lineAfter source.toList)] ∧
        (∀ token ∈ words, token.kind ≠ .endOfInput) ∧
        List.Forall₂ TokenAt ((located [] parts).filter (·.2.isToken)) words) ∧
      List.Forall₂ ErrorAt ((located [] parts).filter (·.2.isFault)) (scan source).errors := by
  have segmented := segments_segmented source.toList
  obtain ⟨whole, nonempty⟩ := segmented_text segmented
  refine ⟨segments source.toList, segmented, whole, nonempty, ?_, ?_⟩
  · refine ⟨Scan.words source, ?_, ?_, ?_⟩
    · rw [Scan.scan_tokens, breaks_segments]
      rfl
    · intro token member
      simpa [Token.isEnd] using Scan.words_inner source token member
    · exact placed_located [] fun kind text => lexeme_of_mem
  · rw [Scan.scan_errors]
    exact errorsFrom_located [] _

end Scriptlet
