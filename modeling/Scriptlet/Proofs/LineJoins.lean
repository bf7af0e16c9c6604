import Scriptlet.Proofs.Programs
import Scriptlet.Proofs.Utf8

/-! Scanning two texts joined by a line break. Unless the first stops within a comment or a string that
may span lines, nothing is read across the break: the tokens and the errors are those of the first and then
those of the second, further down. What stops so is the last of the first text, and its only such error. -/
namespace Scriptlet

def LexicalError.moved (offset : Int) (error : LexicalError) : LexicalError :=
  { error with line := error.line + offset }

namespace Scan

theorem errorsFrom_append (line : Int) (first second : List Segment) :
    errorsFrom line (first ++ second) =
      errorsFrom line first ++ errorsFrom (line + breaks first) second := by
  induction first generalizing line with
  | nil => simp [errorsFrom, breaks]
  | cons segment rest ih =>
    have total : line + segment.lineBreaks + breaks rest = line + breaks (segment :: rest) := by
      simp [breaks, Int.add_assoc]
    rw [List.cons_append, errorsFrom.eq_def, errorsFrom.eq_def]
    cases segment <;> simp [ih, total]

theorem errorsFrom_moved (line offset : Int) (parts : List Segment) :
    errorsFrom (line + offset) parts = (errorsFrom line parts).map (LexicalError.moved offset) := by
  induction parts generalizing line with
  | nil => rfl
  | cons segment rest ih =>
    have further : line + offset + segment.lineBreaks = line + segment.lineBreaks + offset := by omega
    rw [errorsFrom.eq_def, errorsFrom.eq_def]
    cases segment <;> simp only [further, ih, List.map_cons, LexicalError.moved]

theorem fault_of_mem_errorsFrom {line : Int} {parts : List Segment} {error : LexicalError}
    (member : error ∈ errorsFrom line parts) : ∃ text, Segment.fault error.cause text ∈ parts := by
  induction parts generalizing line with
  | nil => cases member
  | cons segment rest ih =>
    have deeper (inside : error ∈ errorsFrom (line + segment.lineBreaks) rest) :
        ∃ text, Segment.fault error.cause text ∈ segment :: rest := by
      obtain ⟨text, found⟩ := ih inside
      exact ⟨text, List.mem_cons_of_mem _ found⟩
    rw [errorsFrom.eq_def] at member
    cases segment with
    | fault cause text =>
      rcases List.mem_cons.mp member with rfl | inside
      · exact ⟨text, List.mem_cons_self⟩
      · exact deeper inside
    | token kind text => exact deeper member
    | blank c => exact deeper member
    | comment text => exact deeper member

end Scan

namespace Segment

theorem stands_open {cause : LexicalFault} {text after : List Char}
    (stands : Stands (.fault cause text) after) (isOpen : cause.isOpen = true) : after = [] := by
  cases stands with
  | openRawString | openComment => rfl
  | openString | unexpected => cases isOpen

theorem segmented_nil {parts : List Segment} (segmented : Segmented [] parts) : parts = [] := by
  obtain ⟨whole, nonempty⟩ := segmented_text segmented
  rw [List.eq_nil_iff_forall_not_mem]
  intro part member
  exact nonempty part member (List.flatMap_eq_nil_iff.mp whole part member)

/-- What is left open comes last, and nothing before it is left open. -/
theorem open_last {source : List Char} {parts : List Segment} (segmented : Segmented source parts)
    {cause : LexicalFault} {text : List Char} (member : fault cause text ∈ parts)
    (isOpen : cause.isOpen = true) : ∃ front, parts = front ++ [fault cause text] ∧
      ∀ other stretch, fault other stretch ∈ front → other.isOpen = false := by
  induction segmented with
  | nil => cases member
  | @cons segment after rest stands further ih =>
    rcases List.mem_cons.mp member with rfl | inside
    · obtain rfl := stands_open stands isOpen
      obtain rfl := segmented_nil further
      exact ⟨[], rfl, by simp⟩
    · obtain ⟨front, rfl, closed⟩ := ih inside
      refine ⟨segment :: front, rfl, ?_⟩
      intro other stretch earlier
      rcases List.mem_cons.mp earlier with rfl | deeper
      · -- Were it open, nothing would follow.
        apply Bool.eq_false_iff.mpr
        intro isOpenToo
        obtain rfl := stands_open stands isOpenToo
        simpa using segmented_nil further
      · exact closed other stretch deeper

end Segment

namespace Scan

section Joining

variable {first second : String} (split : segments (first ++ "\n" ++ second).toList =
  segments first.toList ++ .blank '\n' :: segments second.toList)

include split

theorem tokens_joined : (scan (first ++ "\n" ++ second)).tokens =
    words first ++ (scan second).tokens.map (Token.moved (lineAfter first.toList)) := by
  have offset : lineAfter first.toList = breaks (segments first.toList) + 1 := by
    rw [breaks_segments, lineAfter, Int.add_comm]
  have last : 1 + (breaks (segments (first ++ "\n" ++ second).toList) : Int) =
      1 + breaks (segments second.toList) + lineAfter first.toList := by
    simp only [breaks_segments, lineAfter, String.toList_append, List.count_append]
    simp
    omega
  rw [scan_tokens, words_lineCut split, scan_tokens second, List.map_append, ← offset, last,
    List.append_assoc]
  rfl

theorem errors_joined : (scan (first ++ "\n" ++ second)).errors = (scan first).errors ++
    (scan second).errors.map (LexicalError.moved (lineAfter first.toList)) := by
  simp only [scan_errors]
  have offset : (1 : Int) + breaks (segments first.toList) + 1 = 1 + lineAfter first.toList := by
    rw [breaks_segments, lineAfter, Int.add_assoc, Int.add_comm _ 1]
  have blank (line : Int) : errorsFrom line (.blank '\n' :: segments second.toList) =
      errorsFrom (line + 1) (segments second.toList) := rfl
  rw [split, errorsFrom_append, blank, offset, errorsFrom_moved]

end Joining

theorem open_error_last {source : String} {error : LexicalError} (member : error ∈ (scan source).errors)
    (isOpen : error.cause.isOpen = true) : ∃ others, (scan source).errors = others ++ [error] ∧
      (∀ other ∈ others, other.cause.isOpen = false) ∧ error.line = lineAfter source.toList := by
  obtain ⟨text, found⟩ := fault_of_mem_errorsFrom (scan_errors source ▸ member)
  obtain ⟨front, parts, closed⟩ :=
    Segment.open_last (Segment.segments_segmented source.toList) found isOpen
  have line : 1 + (breaks front : Int) + (Segment.fault error.cause text).lineBreaks =
      lineAfter source.toList := by
    have total := breaks_segments source.toList
    rw [parts, breaks_eq, List.flatMap_append, List.count_append, ← breaks_eq] at total
    simp only [lineAfter, ← total, Segment.lineBreaks, List.flatMap_singleton]
    omega
  have errors : (scan source).errors =
      errorsFrom 1 front ++ [⟨lineAfter source.toList, error.cause⟩] := by
    rw [scan_errors, parts, errorsFrom_append, ← line]
    rfl
  have closedErrors : ∀ other ∈ errorsFrom 1 front, other.cause.isOpen = false := by
    intro other earlier
    obtain ⟨stretch, inside⟩ := fault_of_mem_errorsFrom earlier
    exact closed other.cause stretch inside
  rw [errors, List.mem_append, List.mem_singleton] at member
  rcases member with earlier | same
  · have shut := closedErrors error earlier
    rw [isOpen] at shut
    cases shut
  · refine ⟨errorsFrom 1 front, ?_, closedErrors, ?_⟩
    · rw [errors, ← same]
    · rw [same]

end Scan

/-- Scanning is compositional at line breaks, errors included. For any two sources, well-formed or not:
if nothing of the first is left open, the tokens of the two joined by a line break are those of the first,
without the one that ends them, and those of the second as many lines further down as the first takes,
and so are the errors. If something of the first is left open, that is its last error, the only one so,
and on its last line. -/
theorem scanning_composes_at_line_breaks (first second : ByteString) :
    let joined := scan (first ++ ("\n" : ByteString) ++ second).shown
    let offset := lineAfter first.shown.toList
    ((∀ error ∈ (scan first.shown).errors, error.cause.isOpen = false) →
      ∃ words last, (scan first.shown).tokens = words ++ [.endOfInput last] ∧
        joined.tokens = words ++ (scan second.shown).tokens.map (Token.moved offset) ∧
        joined.errors =
          (scan first.shown).errors ++ (scan second.shown).errors.map (LexicalError.moved offset)) ∧
    ∀ error ∈ (scan first.shown).errors, error.cause.isOpen = true →
      ∃ others, (scan first.shown).errors = others ++ [error] ∧
        (∀ other ∈ others, other.cause.isOpen = false) ∧ error.line = offset := by
  intro joined offset
  constructor
  · intro closed
    have text : (first.shown ++ "\n" ++ second.shown).toList =
        first.shown.toList ++ '\n' :: second.shown.toList := by simp
    have cut := segments_lineCut first.shown.toList second.shown.toList
    rw [← text] at cut
    have same : joined = scan (first.shown ++ "\n" ++ second.shown) :=
      congrArg scan (ByteString.shown_lines first second)
    rcases cut with split | ⟨cause, stretch, member, isOpen⟩
    · refine ⟨Scan.words first.shown, _, Scan.scan_tokens first.shown, ?_, ?_⟩
      · rw [same, Scan.tokens_joined split]
      · rw [same, Scan.errors_joined split]
    · -- What is left open is among the errors.
      obtain ⟨error, found, cause⟩ := Scan.mem_scan_errors member
      have shut := closed error found
      rw [cause, isOpen] at shut
      cases shut
  · intro error member isOpen
    exact Scan.open_error_last member isOpen

end Scriptlet
