import Scriptlet.Program
import Scriptlet.Proofs.Agreement
import Scriptlet.Proofs.ScannerRuns

/-! The tokens of a text, by its segments, and what it takes for a text to be a program. -/
namespace Scriptlet

def Token.moved (offset : Int) (token : Token) : Token :=
  { token with line := token.line + offset }

namespace Scan

def breaks : List Segment → Nat
  | [] => 0
  | segment :: rest => segment.lineBreaks + breaks rest

/-- The tokens of segments that start on `line`, without the one that ends them. -/
def placed (line : Int) : List Segment → List Token
  | [] => []
  | segment :: rest =>
    match segment with
    | .token kind text => token line kind text :: placed (line + segment.lineBreaks) rest
    | _ => placed (line + segment.lineBreaks) rest

theorem tokensFrom_eq (line : Int) (parts : List Segment) :
    tokensFrom line parts = placed line parts ++ [.endOfInput (line + breaks parts)] := by
  induction parts generalizing line with
  | nil => simp [tokensFrom, placed, breaks]
  | cons segment rest ih =>
    have total : line + segment.lineBreaks + breaks rest = line + breaks (segment :: rest) := by
      simp [breaks, Int.add_assoc]
    rw [tokensFrom.eq_def, placed.eq_def]
    cases segment <;> simp [ih, total]

theorem placed_append (line : Int) (first second : List Segment) :
    placed line (first ++ second) = placed line first ++ placed (line + breaks first) second := by
  induction first generalizing line with
  | nil => simp [placed, breaks]
  | cons segment rest ih =>
    have total : line + segment.lineBreaks + breaks rest = line + breaks (segment :: rest) := by
      simp [breaks, Int.add_assoc]
    rw [List.cons_append, placed.eq_def, placed.eq_def]
    cases segment <;> simp [ih, total]

theorem placed_moved (line offset : Int) (parts : List Segment) :
    placed (line + offset) parts = (placed line parts).map (Token.moved offset) := by
  induction parts generalizing line with
  | nil => rfl
  | cons segment rest ih =>
    have further : line + offset + segment.lineBreaks = line + segment.lineBreaks + offset := by omega
    rw [placed.eq_def, placed.eq_def]
    cases segment <;> simp only [further, ih, List.map_cons, token, Token.moved]

theorem mem_placed {line : Int} {parts : List Segment} {listed : Token}
    (member : listed ∈ placed line parts) :
    ∃ place kind text, listed = token place kind text ∧ Segment.token kind text ∈ parts := by
  induction parts generalizing line with
  | nil => cases member
  | cons segment rest ih =>
    rw [placed.eq_def] at member
    have deeper (inside : listed ∈ placed (line + segment.lineBreaks) rest) : ∃ place kind text,
        listed = token place kind text ∧ Segment.token kind text ∈ segment :: rest := by
      obtain ⟨place, kind, text, same, found⟩ := ih inside
      exact ⟨place, kind, text, same, List.mem_cons_of_mem _ found⟩
    cases segment with
    | token kind text =>
      rcases List.mem_cons.mp member with rfl | inside
      · exact ⟨line, kind, text, rfl, List.mem_cons_self⟩
      · exact deeper inside
    | blank char => exact deeper member
    | comment text => exact deeper member
    | fault cause text => exact deeper member

theorem errorsFrom_eq_nil (line : Int) {parts : List Segment} :
    errorsFrom line parts = [] ↔ ∀ cause text, Segment.fault cause text ∉ parts := by
  induction parts generalizing line with
  | nil => simp [errorsFrom]
  | cons segment rest ih =>
    rw [errorsFrom.eq_def]
    cases segment with
    | fault cause text =>
      constructor
      · intro none
        cases none
      · intro clean
        exact absurd List.mem_cons_self (clean cause text)
    | token kind text => simp [ih]
    | blank char => simp [ih]
    | comment text => simp [ih]

theorem mem_errorsFrom (line : Int) {parts : List Segment} {cause : LexicalFault} {text : List Char}
    (member : Segment.fault cause text ∈ parts) :
    ∃ error ∈ errorsFrom line parts, error.cause = cause := by
  induction parts generalizing line with
  | nil => cases member
  | cons segment rest ih =>
    rw [errorsFrom.eq_def]
    rcases List.mem_cons.mp member with rfl | inside
    · exact ⟨_, List.mem_cons_self, rfl⟩
    · obtain ⟨error, found, same⟩ := ih (line + segment.lineBreaks) inside
      cases segment with
      | fault other stretch => exact ⟨error, List.mem_cons_of_mem _ found, same⟩
      | token kind text => exact ⟨error, found, same⟩
      | blank char => exact ⟨error, found, same⟩
      | comment text => exact ⟨error, found, same⟩

end Scan

namespace Segment

theorem lexeme_kind {kind : TokenKind} {text : List Char} (lexeme : Lexeme kind text) :
    kind ≠ .endOfInput := by
  cases lexeme with
  | sign listed =>
    rintro rfl
    simp [signs] at listed
  | @word c letters starts continues =>
    intro ends
    have isWord := ofWord_isWord (String.ofList (c :: letters))
    rw [ends] at isWord
    exact absurd isWord (by decide)
  | _ => decide

theorem lexeme_of_mem {source text : List Char} {kind : TokenKind}
    (member : token kind text ∈ segments source) : Lexeme kind text := by
  fun_induction segments source with
  | case1 => cases member
  | case2 c rest ih =>
    rcases List.mem_cons.mp member with same | inside
    · exact (first_longest (Prod.ext same.symm rfl)).lexeme
    · exact ih inside

end Segment

namespace Scan

def words (source : String) : List Token :=
  placed 1 (segments source.toList)

theorem scan_tokens (source : String) :
    (scan source).tokens = words source ++ [.endOfInput (1 + breaks (segments source.toList))] := by
  rw [scan_eq]
  exact tokensFrom_eq 1 _

theorem scan_errors (source : String) : (scan source).errors = errorsFrom 1 (segments source.toList) := by
  rw [scan_eq]

theorem scan_clean {source : String} :
    (scan source).errors = [] ↔ ∀ cause text, Segment.fault cause text ∉ segments source.toList := by
  rw [scan_errors, errorsFrom_eq_nil]

theorem mem_scan_errors {source : String} {cause : LexicalFault} {text : List Char}
    (member : Segment.fault cause text ∈ segments source.toList) :
    ∃ error ∈ (scan source).errors, error.cause = cause := by
  rw [scan_errors]
  exact mem_errorsFrom 1 member

theorem words_inner (source : String) : ∀ token ∈ words source, token.isEnd = false := by
  intro listed member
  obtain ⟨place, kind, text, rfl, found⟩ := mem_placed member
  have other := Segment.lexeme_kind (Segment.lexeme_of_mem found)
  simpa [Token.isEnd, token] using other

end Scan

namespace Program

def diagnostics (source : String) : List Diagnostic :=
  (scan source).errors.map (·.diagnostic) ++ (readAll (scan source).tokens).2.map (·.diagnostic)

section Discarding

variable {m : Type → Type} [Monad m] [LawfulMonad m]

theorem forM_discard {α : Type} (items : List α) (diagnostic : α → Diagnostic) :
    (items.forM fun item => (Reporter.discard : Reporter m) (diagnostic item)) = pure () := by
  induction items with
  | nil => rfl
  | cons item rest ih => rw [List.forM, ih, Reporter.discard, pure_bind]

theorem read_discard (source : String) : read (Reporter.discard : Reporter m) source =
    pure (if (diagnostics source).isEmpty then .ok (readAll (scan source).tokens).1
      else .error (diagnostics source)) := by
  simp only [read, tokenize, parse, ParseMode.parse, forM_discard, pure_bind]
  rfl

theorem read_eq_ofSource (source : String) :
    read (Reporter.discard : Reporter m) source = pure (ofSource source) := by
  rw [read_discard, ofSource, read_discard]
  rfl

end Discarding

theorem ofSource_eq (source : String) : ofSource source =
    if (diagnostics source).isEmpty then .ok (readAll (scan source).tokens).1
      else .error (diagnostics source) := by
  rw [ofSource, read_discard]
  rfl

/-- A source text is a program if nothing in it is faulty and its tokens can be read. -/
theorem ofSource_eq_ok {source : String} {statements : List Stmt} :
    ofSource source = .ok statements ↔
      (∀ cause text, Segment.fault cause text ∉ segments source.toList) ∧
        readStrict (scan source).tokens = .ok statements := by
  rw [← readAll_eq, ← Scan.scan_clean]
  rw [ofSource_eq]
  constructor
  · intro accepted
    split at accepted
    · next none =>
      cases accepted
      simp only [List.isEmpty_iff, diagnostics, List.append_eq_nil_iff, List.map_eq_nil_iff] at none
      exact ⟨none.1, Prod.ext rfl none.2⟩
    · cases accepted
  · rintro ⟨clean, read⟩
    simp [diagnostics, clean, read]

theorem ofSource_eq_error {source : String} {found : List Diagnostic} :
    ofSource source = .error found ↔ diagnostics source = found ∧ found ≠ [] := by
  rw [ofSource_eq]
  split
  · next none => simp [List.isEmpty_iff.mp none]
  · next some =>
    constructor
    · intro refused
      cases refused
      exact ⟨rfl, mt List.isEmpty_iff.mpr some⟩
    · rintro ⟨rfl, -⟩
      rfl

end Program

end Scriptlet
