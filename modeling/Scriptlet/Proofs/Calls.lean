import Scriptlet.Proofs.Scanning
import Scriptlet.Session

/-! What one call on a session does. Reading sends each diagnostic to the session's collector as it is
found, and the collector writes it; what the collector holds in the end is what is returned. Checking and
formatting read without it, and touch nothing. A run leaves its bindings, what it wrote and, if it failed,
a flag. -/
namespace Scriptlet

namespace Collector

def written (collector : Collector) (found : List Diagnostic) : ByteString :=
  if collector.listening then Diagnostic.report collector.style found else ""

def holding (collector : Collector) (found : List Diagnostic) : Collector :=
  { collector with found := collector.found ++ found }

theorem report_eq (collector : Collector) (diagnostic : Diagnostic) :
    collector.report diagnostic = (collector.holding [diagnostic], collector.written [diagnostic]) := by
  have line : Diagnostic.report collector.style [diagnostic] =
      diagnostic.render collector.style ++ "\n" := ByteString.empty_append _
  rw [report, holding, written, line]

theorem written_nil (collector : Collector) : collector.written [] = "" := by
  unfold written
  split <;> rfl

theorem written_append (collector : Collector) (first second : List Diagnostic) :
    collector.written (first ++ second) = collector.written first ++ collector.written second := by
  unfold written
  split
  · rw [Diagnostic.report, List.map_append, ByteString.unlines_append]
    rfl
  · rfl

end Collector

namespace Session

def Work.reporting (work : Work) (found : List Diagnostic) : Work :=
  { session := { work.session with collector := work.session.collector.holding found }
    effects := { work.effects with
      stderr := work.effects.stderr ++ work.session.collector.written found } }

theorem Work.reporting_nil (work : Work) : work.reporting [] = work := by
  simp [reporting, Collector.holding, Collector.written_nil, ByteString.append_empty]

theorem Work.reporting_append (work : Work) (first second : List Diagnostic) :
    (work.reporting first).reporting second = work.reporting (first ++ second) := by
  simp only [reporting, Collector.holding, List.append_assoc, Collector.written_append,
    ByteString.append_assoc]
  rfl

namespace Action

theorem collect_run (diagnostic : Diagnostic) (work : Work) :
    StateT.run (collect diagnostic) work = pure ((), work.reporting [diagnostic]) := by
  simp only [collect, Collector.report_eq]
  rfl

theorem forM_collect {α : Type} (items : List α) (diagnostic : α → Diagnostic) (work : Work) :
    StateT.run (items.forM fun item => collect (diagnostic item)) work =
      pure ((), work.reporting (items.map diagnostic)) := by
  induction items generalizing work with
  | nil => rw [List.map_nil, work.reporting_nil]; rfl
  | cons item rest ih =>
    rw [List.forM, StateT.run_bind, collect_run, pure_bind, ih, work.reporting_append]
    rfl

theorem tokenize_run (source : String) (work : Work) :
    StateT.run (Program.tokenize collect source) work =
      pure (scan source, work.reporting ((scan source).errors.map (·.diagnostic))) := by
  simp only [Program.tokenize, StateT.run_bind, forM_collect, pure_bind, StateT.run_pure]

theorem parse_run (mode : ParseMode) (tokens : List Token) (work : Work) :
    StateT.run (Program.parse collect mode tokens) work =
      pure (mode.parse tokens, work.reporting ((mode.parse tokens).2.map (·.diagnostic))) := by
  simp only [Program.parse, StateT.run_bind, forM_collect, pure_bind, StateT.run_pure]

end Action

/-- What is wrong with a source in a mode: its lexical errors, then its syntax errors, or the first of
them. -/
def diagnosticsOf (mode : ParseMode) (source : String) : List Diagnostic :=
  (scan source).errors.map (·.diagnostic) ++
    match mode with
    | .collect => (readAll (scan source).tokens).2.map (·.diagnostic)
    | .failFast => ((readAll (scan source).tokens).2.map (·.diagnostic)).take 1

theorem parse_diagnostics (mode : ParseMode) (source : String) :
    (scan source).errors.map (·.diagnostic) ++
      (mode.parse (scan source).tokens).2.map (·.diagnostic) = diagnosticsOf mode source := by
  cases mode with
  | collect => rfl
  | failFast =>
    have agrees := readAll_agrees (scan source).tokens
    simp only [ParseMode.parse, diagnosticsOf]
    cases outcome : readStrict (scan source).tokens with
    | ok statements =>
      rw [outcome] at agrees
      simp [agrees]
    | error error =>
      rw [outcome] at agrees
      obtain ⟨more, errors⟩ := agrees
      simp [errors]

/-- A source is a program exactly if nothing is wrong with it in a mode, and it is the same in either. -/
theorem ofSource_eq_parse (mode : ParseMode) {source : String} {statements : List Stmt} :
    Program.ofSource source = .ok statements ↔
      diagnosticsOf mode source = [] ∧ (mode.parse (scan source).tokens).1 = statements := by
  rw [Program.ofSource_eq_ok, ← Scan.scan_clean, ← parse_diagnostics, List.append_eq_nil_iff,
    List.map_eq_nil_iff, List.map_eq_nil_iff, and_assoc]
  refine and_congr_right fun _ => ?_
  cases mode with
  | collect => rw [← readAll_eq, ParseMode.parse, Prod.ext_iff, and_comm]
  | failFast =>
    rw [ParseMode.parse]
    cases readStrict (scan source).tokens with
    | ok found => simp
    | error error => simp

def refusing (session : Session) (found : List Diagnostic) : Session :=
  { session with collector := { session.collector with found }, hadError := true }

theorem read_eq (session : Session) (source : String) : session.read source =
    if (diagnosticsOf session.settings.mode source).isEmpty then
      (.ok (session.settings.mode.parse (scan source).tokens).1,
        { session with collector := session.collector.reset }, {})
    else
      (.error (.diagnostics (diagnosticsOf session.settings.mode source)),
        session.refusing (diagnosticsOf session.settings.mode source),
        { stderr := session.collector.written (diagnosticsOf session.settings.mode source) }) := by
  have work (found : List Diagnostic) :
      Work.reporting { session := { session with collector := session.collector.reset } } found =
        { session := { session with collector := { session.collector with found } }
          effects := { stderr := session.collector.written found } } := by
    simp only [Work.reporting, ByteString.empty_append]
    rfl
  unfold read perform Action.read Action.update
  simp only [StateT.run_bind, StateT.run_modify, StateT.run_get, Action.tokenize_run, Action.parse_run,
    pure_bind, Work.reporting_append, work, parse_diagnostics, Collector.hasErrors]
  cases diagnosticsOf session.settings.mode source with
  | nil =>
    rw [Collector.written_nil]
    rfl
  | cons first more => rfl

theorem read_accepted (session : Session) {source : String} {statements : List Stmt}
    (accepted : Program.ofSource source = .ok statements) :
    session.read source = (.ok statements, { session with collector := session.collector.reset }, {}) := by
  obtain ⟨none, same⟩ := (ofSource_eq_parse session.settings.mode).mp accepted
  rw [read_eq, none, same]
  rfl

theorem read_refused (session : Session) {source : String} {found : List Diagnostic}
    (diagnosed : diagnosticsOf session.settings.mode source = found) (some : found ≠ []) :
    session.read source = (.error (.diagnostics found), session.refusing found,
      { stderr := session.collector.written found }) := by
  rw [read_eq, diagnosed, if_neg (mt List.isEmpty_iff.mp some)]

/-! Calls one inside another. -/

section Binding

variable {α β : Type} {session after : Session} {action : Action α} {answer : α} {effects : Effects}

theorem run_of_perform (done : session.perform action = (answer, after, effects)) :
    StateT.run action { session } = pure (answer, { session := after, effects }) := by
  have whole : ∀ outcome : α × Work, (outcome.1, outcome.2.session, outcome.2.effects) =
      (answer, after, effects) → outcome = (answer, { session := after, effects }) := by
    rintro ⟨found, work⟩ parts
    cases parts
    rfl
  exact whole _ done

theorem perform_bind (next : α → Action β) (done : session.perform action = (answer, after, {})) :
    session.perform (action >>= next) = after.perform (next answer) := by
  rw [perform, StateT.run_bind, run_of_perform done, pure_bind]
  rfl

theorem perform_pure {next : α → Action β} {result : β} (returns : next answer = pure result)
    (done : session.perform action = (answer, after, effects)) :
    session.perform (action >>= next) = (result, after, effects) := by
  rw [perform, StateT.run_bind, run_of_perform done, pure_bind, returns]
  rfl

end Binding

theorem run_accepted (session : Session) {source : String} {statements : List Stmt}
    (accepted : Program.ofSource source = .ok statements) (context : Context) :
    session.run source context =
      { session with collector := session.collector.reset }.execute statements context :=
  perform_bind _ (session.read_accepted accepted)

theorem run_refused (session : Session) {source : String} {found : List Diagnostic}
    (diagnosed : diagnosticsOf session.settings.mode source = found) (some : found ≠ [])
    (context : Context) :
    session.run source context =
      (.error (.diagnostics found), session.refusing found, { stderr := session.collector.written found }) :=
  perform_pure rfl (session.read_refused diagnosed some)

/-! Runs. -/

def effectsOf (session : Session) (report : RunReport) : Effects :=
  { stdout := if session.settings.listening then report.output else ""
    events := if session.settings.tracing then report.events else [] }

section Concluding

variable (session : Session) (report : RunReport)

theorem effectsOf_written :
    { stdout := "" ++ if session.settings.listening then report.output else ""
      events := [] ++ if session.settings.tracing then report.events else [] } =
      session.effectsOf report := by
  rw [ByteString.empty_append, List.nil_append, effectsOf]

theorem conclude_ok {value : Value} (succeeds : report.result = .ok value) :
    session.perform (Action.conclude report) =
      (.ok (), { session with globals := report.environment.inner }, session.effectsOf report) := by
  rw [perform, Action.conclude, succeeds, ← effectsOf_written]
  rfl

theorem conclude_cancelled (cancelled : report.result = .error .cancelled) :
    session.perform (Action.conclude report) =
      (.error .cancelled, { session with globals := report.environment.inner },
        session.effectsOf report) := by
  rw [perform, Action.conclude, cancelled, ← effectsOf_written]
  rfl

theorem conclude_failed {error : RuntimeError} (fails : report.result = .error (.error error)) :
    session.perform (Action.conclude report) =
      (.error (.runtime error),
        { session with globals := report.environment.inner, hadRuntimeError := true },
        { session.effectsOf report with
          stderr := if session.settings.reporting
            then error.diagnostic.render session.settings.style ++ "\n" else "" }) := by
  rw [perform, Action.conclude, fails, ← effectsOf_written,
    ← ByteString.empty_append (if session.settings.reporting then _ else _)]
  rfl

end Concluding

/-! Calls that touch nothing. -/

theorem check_quiet (session : Session) (source : String) :
    ∃ found, session.check source = (found, session, {}) := by
  unfold check perform Action.check
  rw [Program.read_eq_ofSource, pure_bind]
  cases Program.ofSource source with
  | ok statements => exact ⟨_, rfl⟩
  | error found => exact ⟨_, rfl⟩

theorem format_eq (session : Session) (source : String) :
    session.format source = ((Scriptlet.format source).mapError .diagnostics, session, {}) := by
  unfold format perform Action.format
  rw [Program.read_eq_ofSource, pure_bind, Scriptlet.format]
  cases Program.ofSource source with
  | ok statements => rfl
  | error found => rfl

end Session

end Scriptlet
