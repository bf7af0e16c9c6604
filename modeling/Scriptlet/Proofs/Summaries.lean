import Mathlib
import Scriptlet.Proofs.ErrorPlaces
import Scriptlet.Proofs.TraceRecords

/-! What the summary of a trace says of the run that was traced. A summary is made record by record, and
each record tells its event, so the summary says of the events what the run itself reports of them: how
many there are, which statements were completed, the last value of one as it is read, what was printed, and
the error that ended the run. -/
namespace Scriptlet

def Event.error? : Event → Option RuntimeError
  | runtimeError error => some error
  | _ => none

def Event.value? : Event → Option Value
  | statementEnd _ _ value => some value
  | _ => none

/-- An error as a summary shows it, its message read back as text. -/
def RuntimeError.summarized (error : RuntimeError) : ByteString :=
  .text (s!"[Line {error.token.line}] Error: " ++ error.fault.message.shown)

theorem RuntimeError.summarized_eq {error : RuntimeError} {text : String}
    (plain : error.fault.message = .text text) : error.summarized = error.diagnostic.toText := by
  have runtime : Diagnostic.isRuntime error.diagnostic.code = true := by
    cases fault : error.fault <;> simp [RuntimeError.diagnostic, fault, RuntimeFault.code] <;> decide
  have message : error.diagnostic.message = .text text := plain
  rw [Diagnostic.toText, if_pos runtime, message, summarized, plain]
  rfl

namespace TraceSummary

structure Takes (before after : TraceSummary) (runId : String) (event : Event) : Prop where
  run : after.runId = if before.runId.isEmpty then runId else before.runId
  total : after.totalEvents = before.totalEvents + 1
  statements : after.statements = before.statements + [event].countP Event.isStatementEnd
  prints : after.prints = before.prints + ([event].filterMap Event.text?).length
  errors : after.runtimeErrors = before.runtimeErrors + ([event].filterMap Event.error?).length
  message : after.errorMessage =
    (event.error?.map RuntimeError.summarized).getD before.errorMessage
  last : after.lastValue =
    (event.value?.map fun value => (Value.ofJson (Json.ofValue value)).text).getD before.lastValue

theorem add_takes (summary : TraceSummary) {record : TraceRecord} {runId : String} {event : Event}
    (tells : record.Tells runId event) : summary.Takes (summary.add record) runId event := by
  have name := tells.name
  have run := tells.run
  cases event with
  | runStart count =>
    simp only [add, addEvent, name, Event.name, run]
    split <;> exact ⟨rfl, rfl, rfl, rfl, rfl, rfl, rfl⟩
  | statementStart kind line =>
    simp only [add, addEvent, name, Event.name, run]
    exact ⟨rfl, rfl, rfl, rfl, rfl, rfl, rfl⟩
  | statementEnd kind line value =>
    simp only [add, addEvent, name, Event.name, run, addStatement, tells.value kind line value rfl]
    exact ⟨rfl, rfl, rfl, rfl, rfl, rfl, rfl⟩
  | print line text =>
    simp only [add, addEvent, name, Event.name, run]
    exact ⟨rfl, rfl, rfl, rfl, rfl, rfl, rfl⟩
  | runtimeError error =>
    obtain ⟨literal, datum, decoded⟩ := tells.message error rfl
    simp only [add, addEvent, name, Event.name, run, addError, datum, decoded, tells.line, Event.line]
    exact ⟨rfl, rfl, rfl, rfl, rfl, rfl, rfl⟩
  | runEnd count =>
    simp only [add, addEvent, name, Event.name, run]
    exact ⟨rfl, rfl, rfl, rfl, rfl, rfl, rfl⟩

structure Covers (summary : TraceSummary) (runId : String) (events : List Event) : Prop where
  run : summary.runId = if events.isEmpty then "" else runId
  total : summary.totalEvents = events.length
  statements : summary.statements = events.countP Event.isStatementEnd
  prints : summary.prints = (events.filterMap Event.text?).length
  errors : summary.runtimeErrors = (events.filterMap Event.error?).length
  message : summary.errorMessage =
    ((events.filterMap Event.error?).getLast?.map RuntimeError.summarized).getD ""
  last : summary.lastValue = ((events.filterMap Event.value?).getLast?.map fun value =>
    (Value.ofJson (Json.ofValue value)).text).getD ""

variable {summary after : TraceSummary} {runId : String} {events : List Event}

theorem Covers.extend (covers : summary.Covers runId events) {event : Event}
    (takes : summary.Takes after runId event) : after.Covers runId (events ++ [event]) := by
  refine ⟨?_, ?_, ?_, ?_, ?_, ?_, ?_⟩
  · rw [takes.run, covers.run]
    cases events <;> simp
  · rw [takes.total, covers.total, List.length_append, List.length_singleton]
  · rw [takes.statements, covers.statements, List.countP_append]
  · rw [takes.prints, covers.prints, List.filterMap_append, List.length_append]
  · rw [takes.errors, covers.errors, List.filterMap_append, List.length_append]
  · rw [takes.message, covers.message, List.filterMap_append]
    cases event <;> simp [Event.error?]
  · rw [takes.last, covers.last, List.filterMap_append]
    cases event <;> simp [Event.value?]

theorem covers_foldl {records : List TraceRecord} {entries : List (String × Event)}
    (told : List.Forall₂ (fun record entry => record.Tells runId entry.2) records entries)
    (covers : summary.Covers runId events) :
    (records.foldl add summary).Covers runId (events ++ entries.map Prod.snd) := by
  induction told generalizing summary events with
  | nil => simpa using covers
  | @cons record entry _ _ tells _ ih =>
    have further := ih (covers.extend (summary.add_takes tells))
    simpa using further

theorem timed_covers (covers : summary.Covers runId events) : summary.timed.Covers runId events := by
  unfold timed
  split
  · exact ⟨covers.run, covers.total, covers.statements, covers.prints, covers.errors, covers.message,
      covers.last⟩
  · exact covers

theorem ofText_covers (runId : String) {stamped : List (String × Event)}
    (fits : ∀ entry ∈ stamped, entry.2.Fits) :
    (ofText (traceText runId stamped)).Covers runId (stamped.map Prod.snd) := by
  have empty : Covers {} runId [] := ⟨rfl, rfl, rfl, rfl, rfl, rfl, rfl⟩
  exact timed_covers (covers_foldl (records_trace runId fits) empty)

end TraceSummary

/-- Events that are properly nested count no statements of a run and are about no error. -/
theorem nested_plain {pending others : List (String × Int)} {events : List Event}
    (nested : openAfter pending events = some others) :
    ∀ event ∈ events, event.counted = 0 ∧ event.error? = none := by
  fun_induction openAfter pending events <;> simp_all [Event.counted, Event.error?]

section Traced

variable {source : String} {statements around : List Stmt} {echo : Bool} {body : List Event}
  {report : RunReport} (holds : report.Holds echo statements around body)

include holds

theorem record_fits (accepted : Program.ofSource source = .ok statements)
    (size : source.length + 1 < 2 ^ 63) : ∀ event ∈ report.events, event.Fits := by
  obtain ⟨listed, completed⟩ := record_count accepted holds
  intro event inside
  obtain ⟨positive, line⟩ := record_line accepted holds event inside
  have counted : event.counted ≤ source.length := by
    rw [holds.events, List.mem_cons, List.mem_append, List.mem_append, List.mem_singleton] at inside
    rcases inside with rfl | (inner | failed) | rfl
    · exact listed
    · rw [(nested_plain (recorded_open holds.recorded) event inner).1]
      exact Nat.zero_le _
    · unfold errorEvents at failed
      split at failed
      · obtain rfl := List.mem_singleton.mp failed
        exact Nat.zero_le _
      · cases failed
    · exact completed
  exact ⟨positive, by omega, by omega⟩

/-- A program that was read fails with a message that is a text: the names in it are those of the source. -/
theorem record_message (accepted : Program.ofSource source = .ok statements) {error : RuntimeError}
    (fails : report.result = .error (.error error)) : ∃ text, error.fault.message = .text text := by
  have recorded := holds.recorded
  rw [fails] at recorded
  obtain ⟨stmt, found, raises⟩ := stopped_raises recorded error rfl
  obtain ⟨written, expr, before, after, inside, derived, evaluates⟩ :=
    sentence_raises (sentence_of_source accepted) stmt found raises
  have named := evaluate_named expr before error after evaluates
  obtain ⟨place, kind, text, same, -⟩ := Scan.mem_placed (inside (derives_fails derived evaluates))
  cases fault : error.fault with
  | undefined name =>
    have plain : name = .text (String.ofList text) := by
      rw [named name fault, same]
      rfl
    exact ⟨_, by rw [plain]; rfl⟩
  | _ => exact ⟨_, rfl⟩

theorem record_errors : report.events.filterMap Event.error? =
    (errorEvents report.result).filterMap Event.error? := by
  have inner : body.filterMap Event.error? = [] :=
    List.filterMap_eq_nil_iff.mpr fun event inside =>
      (nested_plain (recorded_open holds.recorded) event inside).2
  rw [holds.events, List.filterMap_cons_none rfl, List.filterMap_append, List.filterMap_append, inner]
  simp [Event.error?]

end Traced

theorem trace_fits {source : String} {statements : List Stmt} {interrupt : Run → Bool}
    {environment : Environment} {echo : Bool} {patience : Option Nat} {stamped : List (String × Event)}
    (accepted : Program.ofSource source = .ok statements) (size : source.length + 1 < 2 ^ 63)
    (traced : stamped.map Prod.snd = (executeUntil interrupt statements environment echo patience).events) :
    ∀ entry ∈ stamped, entry.2.Fits := by
  obtain ⟨body, around, holds⟩ := executeUntil_holds interrupt statements environment echo patience
  intro entry inside
  exact record_fits holds accepted size entry.2 (traced ▸ List.mem_map_of_mem inside)

/-- The trace of a run can be summarized if its lines are short enough, and the summary reproduces the run,
for every program that was read, wherever the run stops, and whatever the times of its events: the run's
name, the number of its events, the statements it completed, the lines it wrote, and the error it failed
with, if it failed, and its text. -/
theorem summary_reproduces_run {source : String} {statements : List Stmt}
    (accepted : Program.ofSource source = .ok statements) (size : source.length + 1 < 2 ^ 63)
    (environment : Environment) (echo : Bool) (patience : Option Nat) (runId : String) :
    execute statements environment echo patience =
        executeUntil Run.impatient statements environment echo patience ∧
      ∀ interrupt stamped, let report := executeUntil interrupt statements environment echo patience
        stamped.map Prod.snd = report.events →
        (∀ entry ∈ stamped, (entry.2.toJson entry.1 runId).utf8ByteSize < TraceSummary.lineLimit) →
        ∃ summary, TraceSummary.ofInput ⟨(traceText runId stamped).toUTF8, none⟩ = .ok summary ∧
          summary.runId = runId ∧ summary.totalEvents = report.events.length ∧
          summary.statements = report.completed ∧ summary.prints = report.written.length ∧
          (∀ error, report.result = .error (.error error) →
            summary.runtimeErrors = 1 ∧ summary.errorMessage = error.diagnostic.toText) ∧
          ((∀ error, report.result ≠ .error (.error error)) →
            summary.runtimeErrors = 0 ∧ summary.errorMessage = "") := by
  refine ⟨rfl, ?_⟩
  intro interrupt stamped report traced short
  obtain ⟨body, around, holds⟩ := executeUntil_holds interrupt statements environment echo patience
  have fits := trace_fits accepted size traced
  have covers := TraceSummary.ofText_covers runId fits
  rw [traced] at covers
  have errors := covers.errors
  have message := covers.message
  rw [record_errors holds] at errors message
  refine ⟨_, TraceSummary.ofInput_short runId fits short, ?_, covers.total, ?_, ?_, ?_, ?_⟩
  · rw [covers.run, holds.events]
    rfl
  · rw [covers.statements, holds_count holds]
  · rw [covers.prints, holds_texts holds]
  · intro error fails
    obtain ⟨text, plain⟩ := record_message holds accepted fails
    rw [fails] at errors message
    exact ⟨errors, message.trans (RuntimeError.summarized_eq plain)⟩
  · intro succeeds
    have none : errorEvents report.result = [] := by
      unfold errorEvents
      split
      · next error fails => exact absurd fails (succeeds error)
      · rfl
    rw [none] at errors message
    exact ⟨errors, message⟩

/-- A run that prints a line and then fails on the next one. -/
theorem summary_reproduces_run_failed :
    let source := "print \"a\";\nx;"
    ∃ statements, Program.ofSource source = .ok statements ∧ source.length + 1 < 2 ^ 63 ∧
      let report := execute statements (.global .empty) false none
      let stamped := report.events.map fun event => ("2024-05-01T10:00:00Z", event)
      (∀ entry ∈ stamped, (entry.2.toJson entry.1 "run-1").utf8ByteSize < TraceSummary.lineLimit) ∧
      ∃ summary, TraceSummary.ofInput ⟨(traceText "run-1" stamped).toUTF8, none⟩ = .ok summary ∧
        summary.runId = "run-1" ∧ summary.totalEvents = 7 ∧ summary.statements = 1 ∧
        summary.prints = 1 ∧ summary.runtimeErrors = 1 ∧
        summary.errorMessage = "[Line 2] Error: Undefined variable 'x'." := by
  intro source
  let print : Token := ⟨.printWord, "print", "", 1⟩
  let string : Token := ⟨.string, "\"a\"", "a", 1⟩
  let name : Token := ⟨.identifier, "x", "", 2⟩
  let statements : List Stmt := [.print print (.string string "a"), .expression (.reference name)]
  have accepted : Program.ofSource source = .ok statements := by cbv
  have size : source.length + 1 < 2 ^ 63 := by decide
  let report := execute statements (.global .empty) false none
  let stamped := report.events.map fun event => ("2024-05-01T10:00:00Z", event)
  obtain ⟨same, summarizes⟩ := summary_reproduces_run accepted size (.global .empty) false none "run-1"
  have traced : stamped.map Prod.snd =
      (executeUntil Run.impatient statements (.global .empty) false none).events := by
    rw [← same, List.map_map]
    exact List.map_id _
  have short : ∀ entry ∈ stamped,
      (entry.2.toJson entry.1 "run-1").utf8ByteSize < TraceSummary.lineLimit := by decide +kernel
  obtain ⟨summary, reads, run, total, completed, written, failed, -⟩ :=
    summarizes Run.impatient stamped traced short
  rw [← same] at total completed written failed
  have fails : report.result = .error (.error (.undefined name)) := rfl
  have events : report.events.length = 7 := rfl
  have counted : report.completed = 1 := rfl
  have lines : report.written.length = 1 := rfl
  have text : (RuntimeError.undefined name).diagnostic.toText =
      "[Line 2] Error: Undefined variable 'x'." := rfl
  obtain ⟨errors, message⟩ := failed (.undefined name) fails
  rw [events] at total
  rw [counted] at completed
  rw [lines] at written
  rw [text] at message
  exact ⟨statements, accepted, size, short, summary, reads, run, total, completed, written, errors,
    message⟩

end Scriptlet
