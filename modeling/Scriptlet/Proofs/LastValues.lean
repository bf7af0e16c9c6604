import Mathlib
import Scriptlet.Proofs.Completeness
import Scriptlet.Proofs.Summaries
import Scriptlet.Proofs.WholeNumbers

/-! The last value in the summary of a trace. The value of a statement is written exactly and its numbers
are read as floating-point numbers, so a summary shows it as it was, except for an integer that is too
large for a floating-point number of its own; a string is shown as the text that its bytes are read as. -/
namespace Scriptlet

open Decimal Binary64 Json

namespace Value

theorem readFloat_integer {value : Int} (short : value.natAbs < 2 ^ 64) :
    readFloat? (toString value) = some (withSign value (nearest ⟨value.natAbs, 0⟩)) := by
  have shown : toString value = String.ofList (signOf value ++ figures value.natAbs) := by
    rw [← integer_text, String.ofList_toList]
  have read := readFloat_whole short
  rw [shown, signOf, withSign]
  split
  · obtain ⟨c, rest, starts⟩ := List.exists_cons_of_ne_nil (figures_numeral value.natAbs).starts
    have figure : isFigure c = true := mem_figures c (starts ▸ List.mem_cons_self)
    rw [starts] at read ⊢
    rw [List.singleton_append, readFloat_negative figure, read, Option.map_some]
  · rw [List.nil_append, read]

/-- An integer that was written and is read back, as the floating-point number nearest to it. -/
theorem ofJson_integer (whole : Int64) : ofJson (ofValue (integer whole)) =
    ofFloat (withSign whole.toInt (nearest ⟨whole.toInt.natAbs, 0⟩)) := by
  simp only [ofValue, ofJson, readFloat_integer (natAbs_short whole)]

theorem ofJson_small {whole : Int64} (small : whole.toInt.natAbs < 2 ^ 53) :
    ofJson (ofValue (integer whole)) = integer whole := by
  rw [ofJson_integer, ofFloat_whole small, Int64.ofInt_toInt]

theorem ofJson_large {whole : Int64} (large : 2 ^ 53 ≤ whole.toInt.natAbs) :
    (ofJson (ofValue (integer whole))).text = .text (String.ofList (signOf whole.toInt) ++
      (shortest (nearest ⟨whole.toInt.natAbs, 0⟩)).text) := by
  have short := natAbs_short whole
  have magnitude := nearest_whole short
  rw [ofJson_integer, ofFloat_large magnitude (nearest_large large short), text]
  congr 1
  apply String.toList_injective
  rw [floatText_withSign magnitude, String.toList_append, String.toList_ofList]

theorem ofJson_integer_iff (whole : Int64) :
    (ofJson (ofValue (integer whole))).text = (integer whole).text ↔ isKept whole.toInt.natAbs = true := by
  by_cases small : whole.toInt.natAbs < 2 ^ 53
  · rw [ofJson_small small, isKept, decide_eq_true small, Bool.true_or]
    exact iff_of_true rfl rfl
  · have shown : (integer whole).text = .text (String.ofList (signOf whole.toInt) ++
        String.ofList (figures whole.toInt.natAbs)) := by
      rw [text]
      congr 1
      apply String.toList_injective
      rw [integer_text, String.toList_append, String.toList_ofList, String.toList_ofList]
    rw [ofJson_large (Nat.le_of_not_lt small), shown, isKept, decide_eq_false small, Bool.false_or,
      beq_iff_eq, ← text_eq_figures, ByteString.text.injEq, String.append_right_inj]

theorem ofJson_string_iff (string : ByteString) :
    (ofJson (ofValue (.string string))).text = (Value.string string).text ↔ ∃ text, string = .text text := by
  have shown : (ofJson (ofValue (.string string))).text = .text string.shown :=
    congrArg ByteString.text (decodeText_escapedText string.shown)
  rw [shown]
  constructor
  · intro same
    exact ⟨string.shown, same.symm⟩
  · rintro ⟨text, rfl⟩
    rfl

theorem ofJson_iff {value : Value} (noFloat : value.kind ≠ .float) :
    (ofJson (ofValue value)).text = value.text ↔
      (∀ whole, value = integer whole → isKept whole.toInt.natAbs = true) ∧
      ∀ string, value = .string string → ∃ text, string = .text text := by
  cases value with
  | integer whole => simp [ofJson_integer_iff]
  | float x => exact absurd rfl noFloat
  | string string => simp [ofJson_string_iff]
  | boolean truth => exact iff_of_true rfl ⟨nofun, nofun⟩
  | nil => exact iff_of_true rfl ⟨nofun, nofun⟩
  | absent => exact iff_of_true rfl ⟨nofun, nofun⟩

end Value

section Traced

variable {source : String} {statements : List Stmt} (accepted : Program.ofSource source = .ok statements)
  (size : source.length + 1 < 2 ^ 63) {interrupt : Run → Bool} {environment : Environment} {echo : Bool}
  {patience : Option Nat} (runId : String) {stamped : List (String × Event)}
  (traced : stamped.map Prod.snd = (executeUntil interrupt statements environment echo patience).events)

include accepted size traced

/-- The last value of a summary is the value of the last statement that was completed, written and read
back. -/
theorem lastValue_trace {value : Value}
    (last : ((stamped.map Prod.snd).filterMap Event.value?).getLast? = some value) :
    (TraceSummary.ofText (traceText runId stamped)).lastValue = (Value.ofJson (ofValue value)).text := by
  rw [(TraceSummary.ofText_covers runId (trace_fits accepted size traced)).last, last]
  rfl

end Traced

theorem events_stamped (time : String) (events : List Event) :
    (events.map fun event => (time, event)).map Prod.snd = events := by
  rw [List.map_map]
  exact List.map_id events

/-- A trace can be summarized exactly if all its lines are short enough. The summary then shows the value of
the last statement that was completed, for every program that was read and wherever the run stops, unless
that value is a string whose bytes are those of no text, or an integer that is not the shortest decimal of
the floating-point number nearest to it. Of such an integer it shows that decimal. -/
theorem summary_shows_last_value {source : String} {statements : List Stmt}
    (accepted : Program.ofSource source = .ok statements) (size : source.length + 1 < 2 ^ 63)
    (environment : Environment) (echo : Bool) (patience : Option Nat) (runId : String) :
    execute statements environment echo patience =
        executeUntil Run.impatient statements environment echo patience ∧
      ∀ interrupt stamped value,
        let report := executeUntil interrupt statements environment echo patience
        let size entry := (entry.2.toJson entry.1 runId).utf8ByteSize
        let outcome := TraceSummary.ofInput ⟨(traceText runId stamped).toUTF8, none⟩
        stamped.map Prod.snd = report.events →
        (report.events.filterMap Event.value?).getLast? = some value → value.kind ≠ .float →
          ((∃ entry ∈ stamped, TraceSummary.lineLimit ≤ size entry) → outcome = .error .lineTooLong) ∧
          ((∀ entry ∈ stamped, size entry < TraceSummary.lineLimit) → ∃ summary, outcome = .ok summary ∧
            (summary.lastValue = value.text ↔
              (∀ whole, value = .integer whole → isKept whole.toInt.natAbs = true) ∧
              ∀ string, value = .string string → ∃ text, string = .text text) ∧
            ∀ whole, value = .integer whole → 2 ^ 53 ≤ whole.toInt.natAbs →
              summary.lastValue = .text (String.ofList (signOf whole.toInt) ++
                (shortest (nearest ⟨whole.toInt.natAbs, 0⟩)).text)) := by
  constructor
  · rfl
  intro interrupt stamped value report bytes outcome traced last noFloat
  have fits := trace_fits accepted size traced
  have shown := lastValue_trace accepted size runId traced (by rw [traced, last])
  constructor
  · rintro ⟨entry, member, long⟩
    exact TraceSummary.ofInput_long runId fits member long
  · intro short
    refine ⟨_, TraceSummary.ofInput_short runId fits short, ?_⟩
    rw [shown]
    constructor
    · exact Value.ofJson_iff noFloat
    · rintro whole rfl large
      exact Value.ofJson_large large

/-- A run that fails after a statement with the value `-2 ^ 53`, which is read as a floating-point number and
not taken for an integer again, but is the shortest decimal of that number. -/
theorem summary_shows_last_value_failed :
    let source := "x;\ny;"
    let least : Int64 := -9007199254740992
    let environment : Environment := .global (.ofList [("x", .integer least)])
    ∃ statements, Program.ofSource source = .ok statements ∧ source.length + 1 < 2 ^ 63 ∧
      let report := execute statements environment false none
      let stamped := report.events.map fun event => ("2024-05-01T10:00:00Z", event)
      (report.events.filterMap Event.value?).getLast? = some (.integer least) ∧
        (∀ entry ∈ stamped, (entry.2.toJson entry.1 "run-1").utf8ByteSize < TraceSummary.lineLimit) ∧
        ∃ summary, TraceSummary.ofInput ⟨(traceText "run-1" stamped).toUTF8, none⟩ = .ok summary ∧
          summary.lastValue = "-9007199254740992" := by
  intro source least environment
  let name : Token := ⟨.identifier, "x", "", 1⟩
  let other : Token := ⟨.identifier, "y", "", 2⟩
  let statements : List Stmt := [.expression (.reference name), .expression (.reference other)]
  have accepted : Program.ofSource source = .ok statements := by cbv
  have size : source.length + 1 < 2 ^ 63 := by decide
  obtain ⟨same, shows⟩ := summary_shows_last_value accepted size environment false none "run-1"
  let report := execute statements environment false none
  let stamped := report.events.map fun event => ("2024-05-01T10:00:00Z", event)
  have traced : stamped.map Prod.snd =
      (executeUntil Run.impatient statements environment false none).events := by
    rw [← same]
    exact events_stamped _ report.events
  have last : (report.events.filterMap Event.value?).getLast? = some (.integer least) := rfl
  have kept : ∀ whole, Value.integer least = .integer whole → isKept whole.toInt.natAbs = true := by
    intro whole same
    cases same
    decide +kernel
  have short : ∀ entry ∈ stamped,
      (entry.2.toJson entry.1 "run-1").utf8ByteSize < TraceSummary.lineLimit := by decide +kernel
  have noString : ∀ string, Value.integer least = .string string → ∃ text, string = .text text := by
    intro string same
    cases same
  obtain ⟨-, summarized⟩ :=
    shows Run.impatient stamped (.integer least) traced (by rw [← same]; exact last) (by decide)
  obtain ⟨summary, reads, shown, -⟩ := summarized short
  exact ⟨statements, accepted, size, last, short, summary, reads, shown.mpr ⟨kept, noString⟩⟩

/-- The value `2 ^ 53 + 1` lies between two floating-point numbers and is shown as `2 ^ 53`. -/
theorem last_value_rounded :
    ∃ statements, Program.ofSource "9007199254740993;" = .ok statements ∧
      let report := execute statements (.global .empty) false none
      let stamped := report.events.map fun event => ("2024-05-01T10:00:00Z", event)
      (report.events.filterMap Event.value?).getLast? = some (.integer 9007199254740993) ∧
        (Value.integer 9007199254740993).text = "9007199254740993" ∧
        ∃ summary, TraceSummary.ofInput ⟨(traceText "run-1" stamped).toUTF8, none⟩ = .ok summary ∧
          summary.lastValue = "9007199254740992" := by
  let figures := "9007199254740993"
  let number : Token := ⟨.integer, figures, figures, 1⟩
  let semicolon : Token := ⟨.semicolon, ";", ";", 1⟩
  let statements : List Stmt := [.expression (.integer number 9007199254740993)]
  have parts : segments "9007199254740993;".toList =
      [.token .integer figures.toList, .token .semicolon [';']] := by cbv
  have scanned : (scan "9007199254740993;").tokens = [number, semicolon] ++ [.endOfInput 1] := by
    rw [scan_eq, parts]
    decide +kernel
  have clean : ∀ cause text, Segment.fault cause text ∉ segments "9007199254740993;".toList := by
    rw [parts]
    simp
  have literal : Expr.ofLiteral number number.literal = .integer number 9007199254740993 := by
    have read : Decimal.readInteger? figures = some 9007199254740993 := by decide +kernel
    simp only [Expr.ofLiteral, Expr.ofText, number, read]
  have leaf : Derives Rank.primary [number] (.integer number 9007199254740993) :=
    literal ▸ .leaf (.integer rfl)
  have derived : Derives Rank.assignment [number] (.integer number 9007199254740993) :=
    .tighter (.tighter (.tighter (.tighter (.tighter (.tighter leaf)))))
  have accepted : Program.ofSource "9007199254740993;" = .ok statements := by
    refine Program.ofSource_eq_ok.mpr ⟨clean, ?_⟩
    rw [scanned]
    exact (readStrict_complete (by decide) rfl (.expression derived rfl .nil)).1 (by decide)
  let report := execute statements (.global .empty) false none
  let stamped := report.events.map fun event => ("2024-05-01T10:00:00Z", event)
  have traced : stamped.map Prod.snd =
      (executeUntil Run.impatient statements (.global .empty) false none).events :=
    events_stamped _ report.events
  have last : (report.events.filterMap Event.value?).getLast? = some (.integer 9007199254740993) := rfl
  have short : ∀ entry ∈ stamped,
      (entry.2.toJson entry.1 "run-1").utf8ByteSize < TraceSummary.lineLimit := by decide +kernel
  have reads := TraceSummary.ofInput_short "run-1" (trace_fits accepted (by decide) traced) short
  refine ⟨statements, accepted, last, by decide +kernel, _, reads, ?_⟩
  rw [lastValue_trace accepted (by decide) "run-1" traced (by rw [traced]; exact last),
    Value.ofJson_large (by decide)]
  decide +kernel

end Scriptlet
