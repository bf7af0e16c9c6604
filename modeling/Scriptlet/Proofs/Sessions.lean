import Scriptlet.Proofs.Calls
import Scriptlet.Proofs.Programs
import Scriptlet.Proofs.Runs
import Scriptlet.Proofs.Utf8

/-! Sources run in a session, each where the one before left off. Scanning, reading and running all start
afresh at a line break between two programs, so two sources in turn do what the one source does that has
the second below the first. -/
namespace Scriptlet

namespace Session

/-! What a run of a session comes to, in terms of the report of its statements. -/

def outputOf (settings : Settings) (written : List ByteString) : ByteString :=
  if settings.listening then .unlines written else ""

theorem outputOf_nil (settings : Settings) : outputOf settings [] = "" := by
  unfold outputOf
  split <;> rfl

theorem outputOf_append (settings : Settings) (first second : List ByteString) :
    outputOf settings (first ++ second) = outputOf settings first ++ outputOf settings second := by
  unfold outputOf
  split
  · exact ByteString.unlines_append first second
  · rfl

def reportOf (session : Session) (statements : List Stmt) : RunReport :=
  Scriptlet.execute statements (.global session.globals) session.settings.echo none

section Accepted

variable (session : Session) {source : String} {statements : List Stmt}
  (accepted : Program.ofSource source = .ok statements)

include accepted

theorem run_concludes : session.run source {} = { session with collector := session.collector.reset }.perform
    (Action.conclude (session.reportOf statements)) :=
  session.run_accepted accepted {}

theorem run_succeeds {value : Value} (succeeds : (session.reportOf statements).result = .ok value) :
    ∃ effects, session.run source {} =
        (.ok (),
          { session with
            globals := (session.reportOf statements).environment.inner,
            collector := session.collector.reset },
          effects) ∧
      effects.stdout = outputOf session.settings (session.reportOf statements).written ∧
      effects.stderr = "" := by
  rw [session.run_concludes accepted, conclude_ok _ _ succeeds]
  exact ⟨_, rfl, rfl, rfl⟩

theorem run_fails {error : RuntimeError}
    (fails : (session.reportOf statements).result = .error (.error error)) :
    ∃ effects, session.run source {} =
        (.error (.runtime error),
          { session with
            globals := (session.reportOf statements).environment.inner,
            collector := session.collector.reset, hadRuntimeError := true },
          effects) ∧
      effects.stdout = outputOf session.settings (session.reportOf statements).written := by
  rw [session.run_concludes accepted, conclude_failed _ _ fails]
  exact ⟨_, rfl, rfl⟩

theorem run_of_runsTo {after : Scope} {written : List ByteString}
    (runs : RunsTo session.settings.echo statements session.globals after written) :
    ∃ effects, session.run source {} =
        (.ok (), { session with globals := after, collector := session.collector.reset }, effects) ∧
      effects.stdout = outputOf session.settings written ∧ effects.stderr = "" := by
  obtain ⟨⟨value, succeeds⟩, left, wrote⟩ := runs
  obtain ⟨effects, ran, stdout, stderr⟩ := session.run_succeeds accepted succeeds
  have bindings : (session.reportOf statements).environment = .global after := left
  rw [bindings] at ran
  rw [← wrote]
  exact ⟨effects, ran, stdout, stderr⟩

end Accepted

theorem run_eq_ok {session after : Session} {source : String} {effects : Effects}
    (runs : session.run source {} = (.ok (), after, effects)) :
    ∃ statements written, Program.ofSource source = .ok statements ∧
      RunsTo session.settings.echo statements session.globals after.globals written ∧
      effects.stdout = outputOf session.settings written := by
  by_cases sound : diagnosticsOf session.settings.mode source = []
  · have accepted := (ofSource_eq_parse session.settings.mode).mpr ⟨sound, rfl⟩
    rw [session.run_concludes accepted] at runs
    cases outcome : (session.reportOf _).result with
    | ok value =>
      rw [conclude_ok _ _ outcome] at runs
      cases runs
      exact ⟨_, _, accepted, runsTo_of_ok outcome, rfl⟩
    | error stop =>
      cases stop with
      | cancelled =>
        rw [conclude_cancelled _ _ outcome] at runs
        cases runs
      | error error =>
        rw [conclude_failed _ _ outcome] at runs
        cases runs
  · rw [session.run_refused rfl sound] at runs
    cases runs

/-- A session whose run goes like that of another source from other bindings, after these lines. Both end in
the same state, and both succeed or both fail, with matching errors. -/
theorem run_resumes (session : Session) (globals : Scope) {source sourceToo : String}
    {statements second : List Stmt} {values : Value → Value → Prop} {matched : Token → Token → Prop}
    {lines : List ByteString} {count : Nat} (accepted : Program.ofSource source = .ok statements)
    (acceptedToo : Program.ofSource sourceToo = .ok second)
    (resumes : (session.reportOf statements).Resumes values matched lines count
      ({ session with globals }.reportOf second)) :
    ∃ after effects more,
      (session.run source {} = (.ok (), after, effects) ∧
          { session with globals }.run sourceToo {} = (.ok (), after, more) ∨
        ∃ error other, error.Matched matched other ∧
          session.run source {} = (.error (.runtime error), after, effects) ∧
          { session with globals }.run sourceToo {} = (.error (.runtime other), after, more)) ∧
      effects.stdout = outputOf session.settings lines ++ more.stdout := by
  have written := congrArg (outputOf session.settings) resumes.written
  rw [outputOf_append] at written
  rcases resumes.result.cases with
    ⟨_, _, succeeds, succeedsToo, -⟩ | ⟨error, other, fails, failsToo, same⟩
  · obtain ⟨effects, ran, stdout, -⟩ := session.run_succeeds accepted succeeds
    obtain ⟨more, ranToo, stdoutToo, -⟩ := run_succeeds _ acceptedToo succeedsToo
    rw [resumes.environment] at ran
    refine ⟨_, effects, more, .inl ⟨ran, ranToo⟩, ?_⟩
    rw [stdout, stdoutToo]
    exact written
  · obtain ⟨effects, ran, stdout⟩ := session.run_fails accepted fails
    obtain ⟨more, ranToo, stdoutToo⟩ := run_fails _ acceptedToo failsToo
    rw [resumes.environment] at ran
    refine ⟨_, effects, more, .inr ⟨error, other, same, ran, ranToo⟩, ?_⟩
    rw [stdout, stdoutToo]
    exact written

end Session

/-! Two sources in turn. -/

def Token.Below (offset : Int) (token other : Token) : Prop := token = other.moved offset

def RuntimeError.moved (offset : Int) (error : RuntimeError) : RuntimeError :=
  { error with token := error.token.moved offset }

theorem RuntimeError.Matched.eq {error other : RuntimeError} (same : error.Matched Eq other) :
    error = other := by
  cases error
  exact congrArg₂ RuntimeError.mk same.fault.symm same.token

section Aligned

variable {source : String} {statements : List Stmt} (accepted : Program.ofSource source = .ok statements)

include accepted

theorem aligned_self : Stmt.Aligned Eq statements statements := by
  have here : ∀ token : Token, id token = token := fun _ => rfl
  have aligned := (ofSource_respells accepted).aligned_elsewhere here
  rwa [Stmt.mapAllTokens_id] at aligned

theorem aligned_below (offset : Int) :
    Stmt.Aligned (Token.Below offset) (statements.map (Stmt.mapTokens (Token.moved offset))) statements := by
  have below : ∀ token : Token, (token.moved offset).Below offset token := fun _ => rfl
  rw [← Stmt.mapAllTokens_eq]
  exact (ofSource_respells accepted).aligned_elsewhere below

end Aligned

namespace Session

/-- Programs one below the other run as they do in turn. A source below another is a program with the
statements of both, the second's moved down by the lines of the first. Where the first runs to its end, the
whole does what the two do in turn: it writes what both write, leaves the session as they do, and succeeds or
fails as the second does, with the error that many lines further down. Where the first fails, the whole fails
with the same error, has written the same and leaves the session as the first does. -/
theorem programs_run_in_turn (session : Session) {first second : ByteString} {early late : List Stmt}
    (accepted : Program.ofSource first.shown = .ok early)
    (acceptedToo : Program.ofSource second.shown = .ok late) :
    let offset : Int := 1 + first.shown.toList.count '\n'
    let whole := (first ++ ("\n" : ByteString) ++ second).shown
    Program.ofSource whole = .ok (early ++ late.map (Stmt.mapTokens (Token.moved offset))) ∧
    ((∃ between after effects more total,
        session.run first.shown {} = (.ok (), between, effects) ∧
        (session.run whole {} = (.ok (), after, total) ∧
            between.run second.shown {} = (.ok (), after, more) ∨
          ∃ error, session.run whole {} = (.error (.runtime (error.moved offset)), after, total) ∧
            between.run second.shown {} = (.error (.runtime error), after, more)) ∧
        total.stdout = effects.stdout ++ more.stdout) ∨
      ∃ error after effects total,
        session.run first.shown {} = (.error (.runtime error), after, effects) ∧
        session.run whole {} = (.error (.runtime error), after, total) ∧
        total.stdout = effects.stdout) := by
  intro offset whole
  have text : whole = first.shown ++ "\n" ++ second.shown := ByteString.shown_lines first second
  have below := ofSource_below accepted acceptedToo
  rw [← text] at below
  refine ⟨below, ?_⟩
  have here {token other : Token} (same : token = other) : token.Same other := same ▸ ⟨rfl, rfl, rfl⟩
  have there {token other : Token} (moved : token.Below offset other) : token.Same other :=
    moved ▸ ⟨rfl, rfl, rfl⟩
  rcases execute_append here there (aligned_self accepted) (aligned_below acceptedToo offset)
      session.globals session.settings.echo with
    ⟨value, succeeds, -, resumes⟩ | ⟨error, fails, resumes⟩
  · left
    obtain ⟨effects, ran, stdout, -⟩ := session.run_succeeds accepted succeeds
    obtain ⟨after, total, more, outcome, wrote⟩ := session.run_resumes _ below acceptedToo resumes
    refine ⟨_, after, effects, more, total, ran, ?_, stdout ▸ wrote⟩
    -- What the collector held is forgotten before a source is read, so it does not matter that it is
    -- reset between the two.
    rcases outcome with both | ⟨error, other, same, fails, failsToo⟩
    · exact .inl both
    · right
      have moved : error.Matched Eq (other.moved offset) := ⟨same.fault, same.token⟩
      exact ⟨other, moved.eq ▸ fails, failsToo⟩
  · right
    obtain ⟨effects, ran, -⟩ := session.run_fails accepted fails
    obtain ⟨after, total, more, outcome, wrote⟩ := session.run_resumes session.globals below accepted resumes
    rcases outcome with ⟨-, succeeds⟩ | ⟨found, other, same, failsWhole, failsToo⟩
    · cases ran.symm.trans succeeds
    · refine ⟨other, after, more, total, failsToo, same.eq ▸ failsWhole, ?_⟩
      rw [wrote, outputOf_nil, ByteString.empty_append]

/-- The first source ends in a comment, the second fails on its second line, the whole on its third. -/
theorem programs_run_in_turn_comment :
    let first : ByteString := "let a; # b"
    let second : ByteString := "print a;\nb;"
    let whole := (first ++ ("\n" : ByteString) ++ second).shown
    ∃ (early late : List Stmt) (after : Session) (total : Effects),
      Program.ofSource first.shown = .ok early ∧ Program.ofSource second.shown = .ok late ∧
      Program.ofSource whole = .ok (early ++ late.map (Stmt.mapTokens (Token.moved 1))) ∧
      (new {}).run whole {} =
        (.error (.runtime (.undefined ⟨.identifier, "b", "", 3⟩)), after, total) ∧
      after.globals.names = ["a"] ∧ total.stdout = "nil\n" := by
  intro first second whole
  let name : Token := ⟨.identifier, "a", "", 1⟩
  let other : Token := ⟨.identifier, "b", "", 2⟩
  let print : Token := ⟨.printWord, "print", "", 1⟩
  let early : List Stmt := [.letIn name (.nil name)]
  let late : List Stmt := [.print print (.reference name), .expression (.reference other)]
  have accepted : Program.ofSource first.shown = .ok early := by cbv
  have acceptedToo : Program.ofSource second.shown = .ok late := by cbv
  let between : Session := { new {} with globals := .ofList [("a", .nil)] }
  have succeeds : ((new {}).reportOf early).result = .ok .nil := by rfl
  have fails : (between.reportOf late).result = .error (.error (.undefined other)) := by rfl
  obtain ⟨effects, ran, stdout, -⟩ := run_succeeds _ accepted succeeds
  obtain ⟨more, ranToo, stdoutToo⟩ := run_fails _ acceptedToo fails
  obtain ⟨below, turns | ⟨error, after, wrote, total, failed, -⟩⟩ :=
    programs_run_in_turn (new {}) accepted acceptedToo
  · have lines : first.shown.toList.count '\n' = 0 := by decide
    rw [lines] at below turns
    obtain ⟨middle, after, wrote, further, total, runs, outcome, written⟩ := turns
    cases ran.symm.trans runs
    rcases outcome with ⟨-, succeeded⟩ | ⟨error, failed, failedToo⟩
    · cases ranToo.symm.trans succeeded
    · cases ranToo.symm.trans failedToo
      refine ⟨early, late, _, total, accepted, acceptedToo, below, failed, rfl, ?_⟩
      rw [written, stdout, stdoutToo]
      rfl
  · cases ran.symm.trans failed

end Session

end Scriptlet
