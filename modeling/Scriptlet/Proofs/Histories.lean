import Scriptlet.Proofs.Calls

/-! Sessions call after call. A session keeps its bindings, its collector and two flags from call to call.
What one call does is told by the call and the session before it; what the flags say after many calls is
what those since the last reset returned, and the collector never holds what an earlier source had wrong
with it. -/
namespace Scriptlet

namespace Session

/-! Calls. -/

inductive Call
  | run (source : String) (context : Context)
  | read (source : String)
  | execute (statements : List Stmt) (context : Context)
  | check (source : String)
  | format (source : String)
  | reset
  | resetGlobals

namespace Call

/-- The source that a call is to read in the session's own mode. -/
def reads? : Call → Option String
  | run source _ => some source
  | read source => some source
  | _ => none

def runs : Call → Bool
  | run .. => true
  | execute .. => true
  | _ => false

def isReset : Call → Bool
  | reset => true
  | _ => false

theorem isReset_eq_false {call : Call} : call.isReset = false ↔ call ≠ .reset := by
  cases call <;> simp [isReset]

theorem loud_of_reads {call : Call} {source : String} (reads : call.reads? = some source) :
    (∀ other, call ≠ .check other) ∧ (∀ other, call ≠ .format other) ∧ call ≠ .reset := by
  cases call <;> simp_all [reads?]

theorem loud_of_runs {call : Call} (runs : call.runs = true) :
    (∀ other, call ≠ .check other) ∧ (∀ other, call ≠ .format other) ∧ call ≠ .reset := by
  cases call <;> simp_all [Call.runs]

end Call

inductive Reply
  | nothing
  | statements (found : List Stmt)
  | diagnostics (found : List Diagnostic)
  | text (formatted : String)

structure Step where
  before : Session
  call : Call
  answer : Except Failure Reply
  after : Session
  effects : Effects

def result (session : Session) : Call → Except Failure Reply × Session × Effects
  | .run source context => (session.run source context).map (Except.map fun _ => .nothing) id
  | .read source => (session.read source).map (Except.map .statements) id
  | .execute statements context =>
    (session.execute statements context).map (Except.map fun _ => .nothing) id
  | .check source => (session.check source).map (fun found => .ok (.diagnostics found)) id
  | .format source => (session.format source).map (Except.map .text) id
  | .reset => (.ok .nothing, session.reset, {})
  | .resetGlobals => (.ok .nothing, session.resetGlobals, {})

def step (session : Session) (call : Call) : Step :=
  let (answer, after, effects) := session.result call
  ⟨session, call, answer, after, effects⟩

def history (session : Session) : List Call → List Step
  | [] => []
  | call :: rest => session.step call :: (session.step call).after.history rest

def afterAll (session : Session) (calls : List Call) : Session :=
  calls.foldl (fun session call => (session.step call).after) session

def sinceReset (steps : List Step) : List Step :=
  steps.reverse.takeWhile fun step => !step.call.isReset

/-! One call. -/

/-- The session once a call has begun: what is to read a source forgets what was wrong with the last. -/
def begun (session : Session) (call : Call) : Session :=
  { session with collector := if call.reads?.isSome then session.collector.reset else session.collector }

/-- All that a call can do: what it returns, what it leaves of the session, and what it writes. -/
inductive Does (session : Session) : Call → Except Failure Reply × Session × Effects → Prop
  | refuses {call : Call} {source : String} {found : List Diagnostic} (reads : call.reads? = some source)
      (wrong : diagnosticsOf session.settings.mode source = found) (some : found ≠ []) :
      Does session call (.error (.diagnostics found), session.refusing found,
        { stderr := session.collector.written found })
  | reads {source : String} (found : List Stmt)
      (sound : diagnosticsOf session.settings.mode source = []) :
      Does session (.read source) (.ok (.statements found), session.begun (.read source), {})
  | runs {call : Call} (report : RunReport) (runs : call.runs = true)
      (sound : ∀ source, call.reads? = some source → diagnosticsOf session.settings.mode source = []) :
      Does session call (.ok .nothing, { session.begun call with globals := report.environment.inner },
        session.effectsOf report)
  | stops {call : Call} (report : RunReport) (runs : call.runs = true)
      (sound : ∀ source, call.reads? = some source → diagnosticsOf session.settings.mode source = []) :
      Does session call (.error .cancelled,
        { session.begun call with globals := report.environment.inner }, session.effectsOf report)
  | fails {call : Call} (report : RunReport) (error : RuntimeError) (runs : call.runs = true)
      (sound : ∀ source, call.reads? = some source → diagnosticsOf session.settings.mode source = []) :
      Does session call (.error (.runtime error),
        { session.begun call with globals := report.environment.inner, hadRuntimeError := true },
        { session.effectsOf report with
          stderr := if session.settings.reporting
            then error.diagnostic.render session.settings.style ++ "\n" else "" })
  | checks {source : String} (found : List Diagnostic) :
      Does session (.check source) (.ok (.diagnostics found), session, {})
  | formats {source : String} (text : String) (sound : diagnosticsOf .collect source = []) :
      Does session (.format source) (.ok (.text text), session, {})
  | refusesToFormat {source : String} {found : List Diagnostic}
      (wrong : diagnosticsOf .collect source = found) (some : found ≠ []) :
      Does session (.format source) (.error (.diagnostics found), session, {})
  | resets : Does session .reset (.ok .nothing, session.reset, {})
  | resetsGlobals : Does session .resetGlobals (.ok .nothing, session.resetGlobals, {})

theorem does_execute (session : Session) {call : Call} (statements : List Stmt) (context : Context)
    (runs : call.runs = true)
    (sound : ∀ source, call.reads? = some source → diagnosticsOf session.settings.mode source = []) :
    Does session call (((session.begun call).execute statements context).map
      (Except.map fun _ => .nothing) id) := by
  let report := executeUntil context.interrupt statements session.environment session.settings.echo
    context.patience
  have concluded : (session.begun call).execute statements context =
    (session.begun call).perform (Action.conclude report) := rfl
  cases ended : report.result with
  | ok value =>
    rw [concluded, conclude_ok _ _ ended]
    exact .runs report runs sound
  | error stop =>
    cases stop with
    | cancelled =>
      rw [concluded, conclude_cancelled _ _ ended]
      exact .stops report runs sound
    | error error =>
      rw [concluded, conclude_failed _ _ ended]
      exact .fails report error runs sound

theorem result_does (session : Session) (call : Call) : Does session call (session.result call) := by
  cases call with
  | run source context =>
    by_cases sound : diagnosticsOf session.settings.mode source = []
    · rw [result, session.run_accepted ((ofSource_eq_parse session.settings.mode).mpr ⟨sound, rfl⟩)]
      exact session.does_execute _ context rfl fun other same => Option.some.inj same ▸ sound
    · rw [result, session.run_refused rfl sound]
      exact .refuses rfl rfl sound
  | read source =>
    by_cases sound : diagnosticsOf session.settings.mode source = []
    · rw [result, session.read_accepted ((ofSource_eq_parse session.settings.mode).mpr ⟨sound, rfl⟩)]
      exact .reads _ sound
    · rw [result, session.read_refused rfl sound]
      exact .refuses rfl rfl sound
  | execute statements context =>
    exact session.does_execute statements context rfl fun other same => nomatch same
  | check source =>
    obtain ⟨found, checked⟩ := session.check_quiet source
    rw [result, checked]
    exact .checks found
  | format source =>
    rw [result, session.format_eq, Scriptlet.format]
    cases outcome : Program.ofSource source with
    | ok statements =>
      exact .formats (sourceText statements) ((ofSource_eq_parse .collect).mp outcome).1
    | error found =>
      obtain ⟨wrong, some⟩ := Program.ofSource_eq_error.mp outcome
      exact .refusesToFormat wrong some
  | reset => exact .resets
  | resetGlobals => exact .resetsGlobals

theorem step_does (session : Session) (call : Call) :
    ∃ answer after effects, session.step call = ⟨session, call, answer, after, effects⟩ ∧
      Does session call (answer, after, effects) :=
  ⟨_, _, _, rfl, session.result_does call⟩

namespace Step

def Refuses (step : Step) : Prop :=
  step.call.reads?.isSome = true ∧ ∃ found, step.answer = .error (.diagnostics found)

def Fails (step : Step) : Prop :=
  step.call.runs = true ∧ ∃ error, step.answer = .error (.runtime error)

structure Holds (step : Step) : Prop where
  /-- A source is refused with all that is wrong with it, and only then. -/
  refused : ∀ source, step.call.reads? = some source → ∀ found,
    step.answer = .error (.diagnostics found) ↔
      found = diagnosticsOf step.before.settings.mode source ∧ found ≠ []
  /-- What it is refused with is reported, a line for each. -/
  reported : ∀ source, step.call.reads? = some source → ∀ found,
    step.answer = .error (.diagnostics found) →
      step.effects.stderr = if step.before.settings.reporting
        then ByteString.join (found.map fun diagnostic => diagnostic.render step.before.settings.style ++ "\n")
        else ""
  /-- The collector holds what is wrong with the last source that was read, and nothing else. -/
  collected : ∀ source, step.call.reads? = some source →
    step.after.collector.found = diagnosticsOf step.before.settings.mode source
  kept : step.call.reads? = none → step.after.collector = step.before.collector
  /-- Formatting reads on in either mode. -/
  formatted : ∀ source, step.call = .format source → ∀ found,
    step.answer = .error (.diagnostics found) ↔ found = diagnosticsOf .collect source ∧ found ≠ []
  harmless : ∀ found, step.answer = .error (.diagnostics found) →
    step.effects.stdout = "" ∧ step.after.globals = step.before.globals
  failed : ∀ error, step.answer = .error (.runtime error) →
    step.effects.stderr = if step.before.settings.reporting
      then error.diagnostic.render step.before.settings.style ++ "\n" else ""
  cancelled : step.answer = .error .cancelled →
    step.after.hadError = step.before.hadError ∧ step.after.hadRuntimeError = step.before.hadRuntimeError
  quiet : ((∃ source, step.call = .check source) ∨ (∃ source, step.call = .format source) ∨
      step.call = .reset) →
    step.after.globals = step.before.globals ∧ step.effects = {}
  untouched : ((∃ source, step.call = .check source) ∨ ∃ source, step.call = .format source) →
    step.after = step.before

end Step

def Consistent (session : Session) : Prop :=
  session.collector.style = session.settings.style ∧
    session.collector.listening = session.settings.reporting

theorem written_eq {session : Session} (consistent : session.Consistent) (found : List Diagnostic) :
    session.collector.written found = if session.settings.reporting
      then ByteString.join (found.map fun diagnostic => diagnostic.render session.settings.style ++ "\n")
      else "" := by
  rw [Collector.written, consistent.1, consistent.2, Diagnostic.report, ByteString.unlines, List.map_map]
  rfl

theorem step_holds {session : Session} (consistent : session.Consistent) (call : Call) :
    (session.step call).Holds := by
  obtain ⟨answer, after, effects, same, does⟩ := session.step_does call
  rw [same]
  cases does with
  | refuses reads wrong some =>
    obtain ⟨noCheck, noFormat, noReset⟩ := Call.loud_of_reads reads
    have reported := written_eq consistent
    constructor <;> simp_all [refusing]
    grind
  | reads found sound => constructor <;> simp_all [Call.reads?, begun, Collector.reset]
  | runs report runs sound
  | stops report runs sound
  | fails report error runs sound =>
    obtain ⟨noCheck, noFormat, noReset⟩ := Call.loud_of_runs runs
    constructor <;> simp_all [begun, Collector.reset]
  | checks => constructor <;> simp [Call.reads?]
  | formats text sound => constructor <;> simp_all [Call.reads?]
  | refusesToFormat wrong =>
    constructor <;> simp_all [Call.reads?]
    grind
  | resets => constructor <;> simp [Call.reads?, reset]
  | resetsGlobals => constructor <;> simp [Call.reads?, resetGlobals]

/-! The flags, call after call. -/

@[simp]
theorem step_before (session : Session) (call : Call) : (session.step call).before = session := by
  cases call <;> rfl

@[simp]
theorem step_call (session : Session) (call : Call) : (session.step call).call = call := by
  cases call <;> rfl

@[simp]
theorem step_settings (session : Session) (call : Call) :
    (session.step call).after.settings = session.settings := by
  obtain ⟨answer, after, effects, same, does⟩ := session.step_does call
  rw [same]
  cases does <;> rfl

theorem step_consistent {session : Session} (consistent : session.Consistent) (call : Call) :
    (session.step call).after.Consistent := by
  obtain ⟨answer, after, effects, same, does⟩ := session.step_does call
  rw [same]
  have cleared : (session.begun call).Consistent := by
    unfold begun
    split <;> exact consistent
  cases does with
  | reads | runs | stops | fails => exact cleared
  | refuses | checks | formats | refusesToFormat | resets | resetsGlobals => exact consistent

/-- What a call does to the flags: a reset clears both, and any other call leaves them up, or raises the one
that tells of its own failure. -/
theorem step_flags (session : Session) (call : Call) :
    ((session.step call).after.hadError = true ↔
      call.isReset = false ∧ (session.hadError = true ∨ (session.step call).Refuses)) ∧
    ((session.step call).after.hadRuntimeError = true ↔
      call.isReset = false ∧ (session.hadRuntimeError = true ∨ (session.step call).Fails)) := by
  obtain ⟨answer, after, effects, same, does⟩ := session.step_does call
  rw [same, Step.Refuses, Step.Fails]
  cases does with
  | refuses reads wrong =>
    obtain ⟨-, -, noReset⟩ := Call.loud_of_reads reads
    simp [Call.isReset_eq_false.mpr noReset, reads, refusing]
  | runs report runs sound
  | stops report runs sound
  | fails report error runs sound =>
    obtain ⟨-, -, noReset⟩ := Call.loud_of_runs runs
    simp [Call.isReset_eq_false.mpr noReset, runs, begun]
  | reads found sound | checks | formats text sound | refusesToFormat wrong | resets | resetsGlobals =>
    simp [Call.isReset, Call.reads?, reset, resetGlobals, begun]

theorem history_snoc (session : Session) (calls : List Call) (call : Call) :
    session.history (calls ++ [call]) =
      session.history calls ++ [(session.afterAll calls).step call] := by
  induction calls generalizing session with
  | nil => rfl
  | cons first rest ih => exact congrArg _ (ih _)

theorem sinceReset_snoc (steps : List Step) (step : Step) :
    sinceReset (steps ++ [step]) =
      if step.call.isReset then [] else step :: sinceReset steps := by
  cases reset : step.call.isReset <;> simp [sinceReset, reset]

/-- A flag that resets clear, and that otherwise only certain steps raise, stands exactly when one of them
was taken since the last reset. -/
theorem flag_history {flag : Session → Bool} {raises : Step → Prop}
    (law : ∀ session call, flag (session.step call).after = true ↔
      call.isReset = false ∧ (flag session = true ∨ raises (session.step call)))
    (session : Session) (clear : flag session = false) (calls : List Call) :
    flag (session.afterAll calls) = true ↔
      ∃ step ∈ sinceReset (session.history calls), raises step := by
  induction calls using List.reverseRecOn with
  | nil => simp [afterAll, history, sinceReset, clear]
  | append_singleton calls call ih =>
    -- The last call splits off on both sides: from the session, and from the steps since the last reset.
    have last : session.afterAll (calls ++ [call]) = ((session.afterAll calls).step call).after :=
      List.foldl_append ..
    rw [last, law, ih, history_snoc, sinceReset_snoc, step_call]
    cases call.isReset with
    | true => simp
    | false => simp [or_comm]

theorem history_holds {session : Session} (consistent : session.Consistent) (calls : List Call) :
    ∀ step ∈ session.history calls, step.before.settings = session.settings ∧ step.Holds := by
  induction calls generalizing session with
  | nil => exact fun _ mem => nomatch mem
  | cons call rest ih =>
    intro step mem
    rcases List.mem_cons.mp mem with rfl | mem
    · exact ⟨by rw [step_before], step_holds consistent call⟩
    · simpa using ih (step_consistent consistent call) step mem

/-- The flags of a session tell what its calls since the last reset returned, and each call is answered
from its own source. -/
theorem flags_tell_history (settings : Settings) (globals : Scope) (calls : List Call) :
    let session : Session := { new settings with globals }
    let steps := session.history calls
    ((session.afterAll calls).hadError = true ↔ ∃ step ∈ sinceReset steps, step.Refuses) ∧
    ((session.afterAll calls).hadRuntimeError = true ↔ ∃ step ∈ sinceReset steps, step.Fails) ∧
    ∀ step ∈ steps, step.before.settings = settings ∧ step.Holds :=
  ⟨flag_history (fun session call => (step_flags session call).1) _ rfl calls,
    flag_history (fun session call => (step_flags session call).2) _ rfl calls,
    history_holds ⟨rfl, rfl⟩ calls⟩

/-- Formatting does not stop at the first syntax error in a session whose sources do, and reports none. -/
theorem formatting_reads_on :
    let step := (new { mode := .failFast }).step (.format "let;print;")
    ∃ found, step.answer = .error (.diagnostics found) ∧ found.length = 2 ∧
      (diagnosticsOf .failFast "let;print;").length = 1 ∧ step.effects.stderr = "" := by
  let semicolon : Token := ⟨.semicolon, ";", ";", 1⟩
  have lexical : (scan "let;print;").errors = [] := by cbv
  have tokens : (scan "let;print;").tokens = [⟨.letWord, "let", "", 1⟩, semicolon,
      ⟨.printWord, "print", "", 1⟩, semicolon, .endOfInput 1] := by cbv
  have syntactic : (readAll (scan "let;print;").tokens).2 =
      [⟨semicolon, .variableName, false⟩, ⟨semicolon, .expression, false⟩] := by
    rw [tokens]
    cbv
  have refused : Program.ofSource "let;print;" = .error (diagnosticsOf .collect "let;print;") := by
    refine Program.ofSource_eq_error.mpr ⟨rfl, ?_⟩
    simp [diagnosticsOf, lexical, syntactic]
  intro step
  have formatted : step = ⟨new { mode := .failFast }, .format "let;print;",
      .error (.diagnostics (diagnosticsOf .collect "let;print;")), new { mode := .failFast }, {}⟩ := by
    simp only [step, Session.step, result, format_eq, Scriptlet.format, refused]
    rfl
  rw [formatted]
  refine ⟨_, rfl, ?_, ?_, rfl⟩
  · simp [diagnosticsOf, lexical, syntactic]
  · simp [diagnosticsOf, lexical, syntactic]

end Session
end Scriptlet
