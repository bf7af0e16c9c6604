import Scriptlet.Execution
import Scriptlet.Proofs.Sequencing

/-! What a run records, however it comes out. The record follows the statements one by one, a block's own
between its start and its end, up to the point where the run stops. All that is said of records follows
from that: what is left open there, how many statements are counted, what was printed.

A run may be cancelled at any time, not only while a line is being written. What matters is where that
is noticed, before one statement or another, and the state of the run tells these apart, so a run is
described here for every condition on its state. -/
namespace Scriptlet

/-! The record of a program. -/

namespace Event

def text? : Event → Option ByteString
  | print _ text => some text
  | _ => none

def isStatementEnd : Event → Bool
  | statementEnd .. => true
  | _ => false

def opening (stmt : Stmt) : Event := .statementStart stmt.kindName stmt.line

def closing (stmt : Stmt) (value : Value) : Event := .statementEnd stmt.kindName stmt.line value

end Event

/-- What is recorded between the start and the end of a statement that has no others inside. -/
inductive Wrote (echo : Bool) : Stmt → List Event → Prop
  | definition {name : Token} {initializer : Expr} : Wrote echo (.letIn name initializer) []
  | print {keyword : Token} {value : Expr} (text : ByteString) :
      Wrote echo (.print keyword value) [.print keyword.line text]
  | echoed {value : Expr} (text : ByteString) (echoes : echo = true) :
      Wrote echo (.expression value) [.print value.line text]
  | quiet {value : Expr} (mute : echo = false) : Wrote echo (.expression value) []

inductive Finished (echo : Bool) : List Stmt → List Event → Prop
  | nil : Finished echo [] []
  | simple {stmt : Stmt} {inner : List Event} (wrote : Wrote echo stmt inner) (value : Value) :
      Finished echo [stmt] (.opening stmt :: inner ++ [.closing stmt value])
  | block {brace : Token} {body : List Stmt} {inner : List Event} (inside : Finished echo body inner)
      (value : Value) : Finished echo [.block brace body]
        (.opening (.block brace body) :: inner ++ [.closing (.block brace body) value])
  | cons {stmt : Stmt} {rest : List Stmt} {first others : List Event}
      (ran : Finished echo [stmt] first) (further : Finished echo rest others) :
      Finished echo (stmt :: rest) (first ++ others)

def Stmt.Raises (error : RuntimeError) : Stmt → Prop
  | letIn _ initializer => ∃ before after, initializer.evaluate before = .error error after
  | print _ value => ∃ before after, value.evaluate before = .error error after
  | expression value => ∃ before after, value.evaluate before = .error error after
  | block .. => False
  | hole => error = ⟨.missingStatement, .nowhere⟩

/-- The record of statements that were stopped, and the statements around the point where they were, the
outermost first. A run is cancelled before a statement, and fails inside of one. -/
inductive Stopped (echo : Bool) : List Stmt → Stop → List Stmt → List Event → Prop
  | cancelled {stmt : Stmt} {rest : List Stmt} : Stopped echo (stmt :: rest) .cancelled [] []
  | failed {stmt : Stmt} {rest : List Stmt} {error : RuntimeError} (raises : stmt.Raises error) :
      Stopped echo (stmt :: rest) (.error error) [stmt] [.opening stmt]
  | inside {brace : Token} {body rest around : List Stmt} {stop : Stop} {events : List Event}
      (stopped : Stopped echo body stop around events) :
      Stopped echo (.block brace body :: rest) stop (.block brace body :: around)
        (.opening (.block brace body) :: events)
  | later {stmt : Stmt} {rest around : List Stmt} {stop : Stop} {first events : List Event}
      (ran : Finished echo [stmt] first) (stopped : Stopped echo rest stop around events) :
      Stopped echo (stmt :: rest) stop around (first ++ events)

/-! What a part of a run adds to the record, and to the output and the count with it. -/

structure Run.Adds (before after : Run) (added : List Event) : Prop where
  events : after.events = before.events ++ added
  written : after.written = before.written ++ added.filterMap Event.text?
  completed : after.completed = before.completed + added.countP Event.isStatementEnd

namespace Run

variable {before middle after : Run} {first second : List Event}

theorem adds_nothing (before : Run) (environment : Environment) :
    before.Adds { before with environment } [] :=
  ⟨(List.append_nil _).symm, (List.append_nil _).symm, rfl⟩

theorem Adds.trans (adds : before.Adds middle first) (further : middle.Adds after second) :
    before.Adds after (first ++ second) := by
  constructor
  · rw [further.events, adds.events, List.append_assoc]
  · rw [further.written, adds.written, List.filterMap_append, List.append_assoc]
  · rw [further.completed, adds.completed, List.countP_append, Nat.add_assoc]

theorem Adds.leave {environment : Environment} (adds : Adds { before with environment } after first) :
    before.Adds { after with environment := after.environment.leave } first :=
  ⟨adds.events, adds.written, adds.completed⟩

end Run

def Records (before : Run) (finished : List Event → Prop) (stopped : Stop → List Event → Prop) :
    EStateM.Result Stop Run Value → Prop
  | .ok _ after => ∃ events, before.Adds after events ∧ finished events
  | .error stop after => ∃ events, before.Adds after events ∧ stopped stop events

section Running

variable {interrupt : Run → Bool} {echo : Bool} {finished : List Event → Prop}
  {stopped : Stop → List Event → Prop}

theorem Records.mono {before : Run} {result : EStateM.Result Stop Run Value}
    {finishedToo : List Event → Prop} {stoppedToo : Stop → List Event → Prop}
    (records : Records before finished stopped result)
    (ends : ∀ events, finished events → finishedToo events)
    (stops : ∀ stop events, stopped stop events → stoppedToo stop events) :
    Records before finishedToo stoppedToo result := by
  cases result with
  | ok value after =>
    obtain ⟨events, adds, held⟩ := records
    exact ⟨events, adds, ends events held⟩
  | error stop after =>
    obtain ⟨events, adds, held⟩ := records
    exact ⟨events, adds, stops stop events held⟩

/-- Evaluation records nothing, so the record is that of what comes after it. -/
theorem evaluate_records {expr : Expr} {next : Value → Execution Value} {before : Run}
    (fails : ∀ error start after, expr.evaluate start = .error error after → stopped (.error error) [])
    (goesOn : ∀ value environment,
      Records before finished stopped (next value { before with environment })) :
    Records before finished stopped ((Execution.evaluate expr >>= next) before) := by
  rw [bind_run, Execution.evaluate]
  cases outcome : expr.evaluate before.environment with
  | ok value environment => exact goesOn value environment
  | error error environment =>
    exact ⟨[], before.adds_nothing environment, fails error before.environment environment outcome⟩

theorem print_records {before : Run} {environment : Environment} {line : Int} {value : Value}
    (held : finished [.print line value.text]) :
    Records before finished stopped
      ((do Execution.print line value; pure value) { before with environment }) :=
  ⟨[.print line value.text], ⟨rfl, rfl, rfl⟩, held⟩

theorem simple_records (stmt : Stmt) (before : Run) (single : ∀ brace body, stmt ≠ .block brace body) :
    Records before (Wrote echo stmt)
      (fun stop events => events = [] ∧ ∃ error, stop = .error error ∧ stmt.Raises error)
      (stmt.execute interrupt echo before) := by
  cases stmt with
  | letIn name initializer =>
    rw [Stmt.execute]
    refine evaluate_records (fun error start after fails => ⟨rfl, error, rfl, start, after, fails⟩) ?_
    intro value environment
    exact ⟨[], before.adds_nothing _, .definition⟩
  | print keyword expr =>
    rw [Stmt.execute]
    refine evaluate_records (fun error start after fails => ⟨rfl, error, rfl, start, after, fails⟩) ?_
    intro value environment
    exact print_records (.print value.text)
  | expression expr =>
    rw [Stmt.execute]
    refine evaluate_records (fun error start after fails => ⟨rfl, error, rfl, start, after, fails⟩) ?_
    intro value environment
    cases echo with
    | true => exact print_records (.echoed value.text rfl)
    | false => exact ⟨[], before.adds_nothing environment, .quiet rfl⟩
  | block brace body => exact absurd rfl (single brace body)
  | hole => exact ⟨[], before.adds_nothing _, rfl, _, rfl, rfl⟩

theorem inScope_records {inside : Execution Value} (before : Run)
    (records : ∀ run, Records run finished stopped (inside run)) :
    Records before finished stopped (Execution.inScope inside before) := by
  have inner := records { before with environment := before.environment.enter }
  rw [Execution.inScope]
  cases outcome : inside { before with environment := before.environment.enter } with
  | ok value after =>
    rw [outcome] at inner
    obtain ⟨events, adds, held⟩ := inner
    exact ⟨events, adds.leave, held⟩
  | error stop after =>
    rw [outcome] at inner
    obtain ⟨events, adds, held⟩ := inner
    exact ⟨events, adds.leave, held⟩

theorem recorded_records {inside : Execution Value} (stmt : Stmt) (before : Run)
    (records : ∀ run, Records run
      (fun inner => ∀ value, finished (.opening stmt :: inner ++ [.closing stmt value]))
      (fun stop inner => stopped stop (.opening stmt :: inner)) (inside run)) :
    Records before finished stopped (Execution.recorded stmt.kindName stmt.line inside before) := by
  let opened : Run := { before with events := before.events ++ [.opening stmt] }
  have opens : before.Adds opened [.opening stmt] := ⟨rfl, (List.append_nil _).symm, rfl⟩
  have inner := records opened
  show Records before finished stopped ((do
    let value ← inside
    modify fun run => { run with completed := run.completed + 1 }
    Execution.record (.closing stmt value)
    pure value : Execution Value) opened)
  rw [bind_run]
  cases outcome : inside opened with
  | ok value after =>
    rw [outcome] at inner
    obtain ⟨events, adds, held⟩ := inner
    refine ⟨_, (opens.trans adds).trans ?_, held value⟩
    exact ⟨rfl, (List.append_nil _).symm, rfl⟩
  | error stop after =>
    rw [outcome] at inner
    obtain ⟨events, adds, held⟩ := inner
    exact ⟨_, opens.trans adds, held⟩

theorem tracked_records {inside : Execution Value} (stmt : Stmt) (before : Run)
    (cancels : stopped .cancelled [])
    (records : ∀ run, Records run
      (fun inner => ∀ value, finished (.opening stmt :: inner ++ [.closing stmt value]))
      (fun stop inner => stopped stop (.opening stmt :: inner)) (inside run)) :
    Records before finished stopped
      (Execution.tracked interrupt stmt.kindName stmt.line inside before) := by
  rw [Execution.tracked, bind_run, Execution.checkInterrupt]
  cases interrupt before with
  | true => exact ⟨[], before.adds_nothing _, cancels⟩
  | false => exact recorded_records stmt before records

mutual

theorem Stmt.execute_records (interrupt : Run → Bool) (echo : Bool) (stmt : Stmt) (before : Run) :
    Records before (fun inner => ∀ value, Finished echo [stmt] (.opening stmt :: inner ++ [.closing stmt value]))
      (fun stop inner => ∃ around, ∀ rest, Stopped echo (stmt :: rest) stop around (.opening stmt :: inner))
      (stmt.execute interrupt echo before) := by
  cases stmt with
  | block brace body =>
    rw [execute]
    refine (inScope_records before (Stmt.executeAll_records interrupt echo .nil body)).mono ?_ ?_
    · intro inner inside value
      exact .block inside value
    · rintro stop inner ⟨around, stops⟩
      exact ⟨_, fun rest => .inside stops⟩
  | _ =>
    refine Records.mono (simple_records _ before ?_) ?_ ?_
    · exact fun _ _ => nofun
    · intro inner wrote value
      exact .simple wrote value
    · rintro stop inner ⟨rfl, error, rfl, raises⟩
      exact ⟨_, fun rest => .failed raises⟩

theorem Stmt.executeAll_records (interrupt : Run → Bool) (echo : Bool) (last : Value)
    (statements : List Stmt) (before : Run) :
    Records before (Finished echo statements)
      (fun stop events => ∃ around, Stopped echo statements stop around events)
      (executeAll interrupt echo last statements before) := by
  cases statements with
  | nil => exact ⟨[], before.adds_nothing _, .nil⟩
  | cons stmt rest =>
    rw [executeAll, bind_run]
    have first : Records before (Finished echo [stmt])
        (fun stop events => ∃ around, ∀ rest, Stopped echo (stmt :: rest) stop around events)
        (Execution.tracked interrupt stmt.kindName stmt.line
          (stmt.execute interrupt echo) before) :=
      tracked_records stmt before ⟨[], fun _ => .cancelled⟩ (Stmt.execute_records interrupt echo stmt)
    cases outcome : Execution.tracked interrupt stmt.kindName stmt.line
        (stmt.execute interrupt echo) before with
    | ok value middle =>
      rw [outcome] at first
      obtain ⟨events, adds, ran⟩ := first
      have further := Stmt.executeAll_records interrupt echo value rest middle
      dsimp only
      cases ending : executeAll interrupt echo value rest middle with
      | ok last after =>
        rw [ending] at further
        obtain ⟨others, addsToo, finished⟩ := further
        exact ⟨_, adds.trans addsToo, .cons ran finished⟩
      | error stop after =>
        rw [ending] at further
        obtain ⟨others, addsToo, around, stops⟩ := further
        exact ⟨_, adds.trans addsToo, around, .later ran stops⟩
    | error stop after =>
      rw [outcome] at first
      obtain ⟨events, adds, around, stops⟩ := first
      exact ⟨events, adds, around, stops rest⟩

end

end Running

/-! What follows for a record. -/

def Stmt.mark (stmt : Stmt) : String × Int := (stmt.kindName, stmt.line)

/-- The statements that are open after events, the innermost first, where some were open before. An end is
that of the innermost, and a line is printed by the innermost. -/
def openAfter : List (String × Int) → List Event → Option (List (String × Int))
  | pending, [] => some pending
  | pending, .statementStart kind line :: rest => openAfter ((kind, line) :: pending) rest
  | (kind, line) :: pending, .statementEnd ended last _ :: rest =>
    if (ended, last) = (kind, line) then openAfter pending rest else none
  | (kind, line) :: pending, .print last _ :: rest =>
    if last = line then openAfter ((kind, line) :: pending) rest else none
  | _, _ => none

theorem openAfter_opening (pending : List (String × Int)) (stmt : Stmt) (rest : List Event) :
    openAfter pending (.opening stmt :: rest) = openAfter (stmt.mark :: pending) rest := by
  rw [Event.opening, openAfter]
  rfl

theorem openAfter_closing (pending : List (String × Int)) (stmt : Stmt) (value : Value)
    (rest : List Event) :
    openAfter (stmt.mark :: pending) (.closing stmt value :: rest) = openAfter pending rest := by
  rw [Event.closing, Stmt.mark, openAfter, if_pos rfl]

theorem openAfter_print (pending : List (String × Int)) (stmt : Stmt) (text : ByteString)
    (rest : List Event) :
    openAfter (stmt.mark :: pending) (.print stmt.line text :: rest) =
      openAfter (stmt.mark :: pending) rest := by
  rw [Stmt.mark, openAfter, if_pos rfl]

theorem openAfter_wrote {echo : Bool} {stmt : Stmt} {inner : List Event} (wrote : Wrote echo stmt inner)
    (pending : List (String × Int)) (rest : List Event) :
    openAfter (stmt.mark :: pending) (inner ++ rest) = openAfter (stmt.mark :: pending) rest := by
  cases wrote with
  | definition => rfl
  | print text => exact openAfter_print pending (.print _ _) text rest
  | echoed text echoes => exact openAfter_print pending (.expression _) text rest
  | quiet mute => rfl

theorem openAfter_finished {echo : Bool} {statements : List Stmt} {events : List Event}
    (finished : Finished echo statements events) (pending : List (String × Int)) (rest : List Event) :
    openAfter pending (events ++ rest) = openAfter pending rest := by
  induction finished generalizing pending rest with
  | nil => rfl
  | simple wrote value =>
    rw [List.append_assoc, List.cons_append, openAfter_opening, openAfter_wrote wrote,
      List.singleton_append, openAfter_closing]
  | block inside value ih =>
    rw [List.append_assoc, List.cons_append, openAfter_opening, ih, List.singleton_append,
      openAfter_closing]
  | cons ran further ih ihToo => rw [List.append_assoc, ih, ihToo]

/-- Statements that were stopped leave open what is around the point where they were. -/
theorem openAfter_stopped {echo : Bool} {statements around : List Stmt} {stop : Stop}
    {events : List Event} (stopped : Stopped echo statements stop around events)
    (pending : List (String × Int)) :
    openAfter pending events = some ((around.map Stmt.mark).reverse ++ pending) := by
  induction stopped generalizing pending with
  | cancelled => rw [openAfter, List.map_nil, List.reverse_nil, List.nil_append]
  | failed raises =>
    rw [openAfter_opening, openAfter]
    rfl
  | inside stopped ih =>
    rw [openAfter_opening, ih, List.map_cons, List.reverse_cons, List.append_assoc]
    rfl
  | later ran stopped ih => rw [openAfter_finished ran, ih]

namespace Stmt

mutual

def count : Stmt → Nat
  | block _ body => countAll body + 1
  | _ => 1

def countAll : List Stmt → Nat
  | [] => 0
  | stmt :: rest => stmt.count + countAll rest

end

end Stmt

theorem finished_count {echo : Bool} {statements : List Stmt} {events : List Event}
    (finished : Finished echo statements events) :
    events.countP Event.isStatementEnd = Stmt.countAll statements := by
  induction finished with
  | nil => rfl
  | simple wrote value => cases wrote <;> rfl
  | block inside value ih =>
    rw [List.countP_append, List.countP_cons, ih, Stmt.countAll, Stmt.countAll, Stmt.count]
    rfl
  | cons ran further ih ihToo =>
    rw [List.countP_append, ih, ihToo, Stmt.countAll, Stmt.countAll, Stmt.countAll, Nat.add_zero]

theorem runtimeError_not_mem {pending others : List (String × Int)} {events : List Event}
    (nested : openAfter pending events = some others) (error : RuntimeError) :
    .runtimeError error ∉ events := by
  fun_induction openAfter pending events <;> simp_all

def Recorded (echo : Bool) (statements around : List Stmt) (events : List Event) :
    Except Stop Value → Prop
  | .ok _ => Finished echo statements events ∧ around = []
  | .error stop => Stopped echo statements stop around events

theorem recorded_open {echo : Bool} {statements around : List Stmt} {events : List Event}
    {result : Except Stop Value} (recorded : Recorded echo statements around events result) :
    openAfter [] events = some (around.reverse.map Stmt.mark) := by
  cases result with
  | ok value =>
    obtain ⟨finished, rfl⟩ := recorded
    have closed := openAfter_finished finished [] []
    rwa [List.append_nil] at closed
  | error stop =>
    rw [openAfter_stopped recorded, List.append_nil, List.map_reverse]

section Whole

variable {echo : Bool} {statements around : List Stmt} {body : List Event}

/-- What a whole run records, between its own start and end. -/
structure RunReport.Holds (report : RunReport) (echo : Bool) (statements around : List Stmt)
    (body : List Event) : Prop where
  recorded : Recorded echo statements around body report.result
  events : report.events = .runStart statements.length ::
    (body ++ errorEvents report.result ++ [.runEnd report.completed])
  written : report.written = body.filterMap Event.text?
  completed : report.completed = body.countP Event.isStatementEnd

theorem close_holds {environment : Environment} {patience : Option Nat} {after : Run}
    {result : Except Stop Value} (recorded : Recorded echo statements around body result)
    (adds : Run.Adds ⟨environment, [], [.runStart statements.length], 0, patience⟩ after body) :
    (RunReport.close result after).Holds echo statements around body := by
  refine ⟨recorded, ?_, adds.written, ?_⟩
  · rw [RunReport.close, adds.events, List.append_assoc, List.append_assoc, ← List.append_assoc body]
    rfl
  · rw [RunReport.close, adds.completed, Nat.zero_add]

theorem executeUntil_holds (interrupt : Run → Bool) (statements : List Stmt)
    (environment : Environment) (echo : Bool) (patience : Option Nat) :
    ∃ body around,
      (executeUntil interrupt statements environment echo patience).Holds echo statements around body := by
  have records := Stmt.executeAll_records interrupt echo .nil statements
    ⟨environment, [], [.runStart statements.length], 0, patience⟩
  unfold executeUntil
  cases outcome : Stmt.executeAll interrupt echo .nil statements
      ⟨environment, [], [.runStart statements.length], 0, patience⟩ with
  | ok value after =>
    rw [outcome] at records
    obtain ⟨body, adds, finished⟩ := records
    exact ⟨body, [], close_holds ⟨finished, rfl⟩ adds⟩
  | error stop after =>
    rw [outcome] at records
    obtain ⟨body, adds, around, stopped⟩ := records
    exact ⟨body, around, close_holds stopped adds⟩

theorem mem_errorEvents {error : RuntimeError} {result : Except Stop Value} :
    .runtimeError error ∈ errorEvents result ↔ result = .error (.error error) := by
  unfold errorEvents
  split <;> grind

theorem holds_error {report : RunReport} (holds : report.Holds echo statements around body)
    (error : RuntimeError) :
    .runtimeError error ∈ report.events ↔ report.result = .error (.error error) := by
  have inner := runtimeError_not_mem (recorded_open holds.recorded) error
  rw [holds.events, ← mem_errorEvents]
  simp [inner]

theorem holds_count {report : RunReport} (holds : report.Holds echo statements around body) :
    report.completed = report.events.countP Event.isStatementEnd := by
  have none : (errorEvents report.result).countP Event.isStatementEnd = 0 := by
    unfold errorEvents
    split <;> rfl
  rw [holds.events, holds.completed, List.countP_cons, List.countP_append, List.countP_append, none]
  rfl

theorem holds_texts {report : RunReport} (holds : report.Holds echo statements around body) :
    report.written = report.events.filterMap Event.text? := by
  have none : (errorEvents report.result).filterMap Event.text? = [] := by
    unfold errorEvents
    split <;> rfl
  rw [holds.events, holds.written, List.filterMap_cons, List.filterMap_append, List.filterMap_append,
    none, List.append_nil]
  exact (List.append_nil _).symm

theorem holds_success {report : RunReport} {value : Value}
    (holds : report.Holds echo statements around body) (succeeds : report.result = .ok value) :
    report.completed = Stmt.countAll statements := by
  have recorded := holds.recorded
  rw [succeeds] at recorded
  rw [holds.completed, finished_count recorded.1]

end Whole

/-- The record of a run is well-formed and true, for every program and wherever it is cancelled. Between
the run's start and its end, with its error before the end if it failed, are starts and ends of
statements that nest, and lines printed inside of them. Open at the end are just the statements around
the point where the run stopped. The ends are counted, on success one for each statement of the
program, and the lines printed are the lines written. -/
theorem record_is_faithful (statements : List Stmt) (environment : Environment) (echo : Bool)
    (patience : Option Nat) :
    execute statements environment echo patience =
        executeUntil Run.impatient statements environment echo patience ∧
      ∀ interrupt, let report := executeUntil interrupt statements environment echo patience
        ∃ body around,
          report.events = .runStart statements.length ::
            (body ++ errorEvents report.result ++ [.runEnd report.completed]) ∧
          (∀ error, .runtimeError error ∈ report.events ↔ report.result = .error (.error error)) ∧
          openAfter [] body = some (around.reverse.map Stmt.mark) ∧
          Recorded echo statements around body report.result ∧
          report.completed = report.events.countP Event.isStatementEnd ∧
          (∀ value, report.result = .ok value → report.completed = Stmt.countAll statements) ∧
          report.output = .join ((report.events.filterMap Event.text?).map (· ++ "\n")) := by
  refine ⟨rfl, fun interrupt => ?_⟩
  obtain ⟨body, around, holds⟩ := executeUntil_holds interrupt statements environment echo patience
  refine ⟨body, around, holds.events, holds_error holds, recorded_open holds.recorded, holds.recorded,
    holds_count holds, fun value => holds_success holds, ?_⟩
  rw [RunReport.output, ByteString.unlines, holds_texts holds]

end Scriptlet
