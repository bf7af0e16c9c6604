import Scriptlet.Proofs.Alignment
import Scriptlet.Proofs.NameChecks

/-! Whole runs. Aligned programs have the same report, and a program that is run in two parts, the second
where the first left off, writes the same lines and leaves the same bindings as in one. -/
namespace Scriptlet

def Run.start (globals : Scope) (statements : List Stmt) : Run :=
  ⟨.global globals, [], [.runStart statements.length], 0, none⟩

/-! A report tells how the run came out. -/

namespace Outcome

def result : EStateM.Result Stop Run Value → Except Stop Value
  | .ok value _ => .ok value
  | .error stop _ => .error stop

def final : EStateM.Result Stop Run Value → Run
  | .ok _ after => after
  | .error _ after => after

end Outcome

structure RunReport.Tells (report : RunReport) (outcome : EStateM.Result Stop Run Value) : Prop where
  result : report.result = Outcome.result outcome
  environment : report.environment = (Outcome.final outcome).environment
  written : report.written = (Outcome.final outcome).written
  completed : report.completed = (Outcome.final outcome).completed

theorem execute_tells (statements : List Stmt) (globals : Scope) (echo : Bool) :
    (execute statements (.global globals) echo none).Tells
      (Stmt.executeAll Run.impatient echo .nil statements (.start globals statements)) := by
  unfold execute executeUntil Run.start
  cases Stmt.executeAll Run.impatient echo .nil statements
      ⟨.global globals, [], [.runStart statements.length], 0, none⟩ with
  | ok value after => exact ⟨rfl, rfl, rfl, rfl⟩
  | error stop after => exact ⟨rfl, rfl, rfl, rfl⟩

/-! Runs of aligned programs. -/

/-- Two runs that end alike: with corresponding values, or with the same fault at matching tokens. -/
inductive Ended (values : Value → Value → Prop) (matched : Token → Token → Prop) :
    Except Stop Value → Except Stop Value → Prop
  | ok {value other : Value} (related : values value other) : Ended values matched (.ok value) (.ok other)
  | error {error other : RuntimeError} (same : error.Matched matched other) :
      Ended values matched (.error (.error error)) (.error (.error other))

theorem Ended.cases {values : Value → Value → Prop} {matched : Token → Token → Prop}
    {result other : Except Stop Value} (ended : Ended values matched result other) :
    (∃ value valueToo, result = .ok value ∧ other = .ok valueToo ∧ values value valueToo) ∨
      ∃ error errorToo, result = .error (.error error) ∧ other = .error (.error errorToo) ∧
        error.Matched matched errorToo := by
  cases ended with
  | ok related => exact .inl ⟨_, _, rfl, rfl, related⟩
  | error same => exact .inr ⟨_, _, rfl, rfl, same⟩

/-- A run that does what the other does, after these lines and so many statements. -/
structure RunReport.Resumes (values : Value → Value → Prop) (matched : Token → Token → Prop)
    (lines : List ByteString) (count : Nat) (report other : RunReport) : Prop where
  result : Ended values matched report.result other.result
  environment : report.environment = other.environment
  written : report.written = lines ++ other.written
  completed : report.completed = count + other.completed

section Aligned

variable {values : Value → Value → Prop} {matched : Token → Token → Prop} {lines : List ByteString}
  {count : Nat}
  {outcome outcomeToo : EStateM.Result Stop Run Value} {report other : RunReport}

theorem resumes_of_abreast (tells : report.Tells outcome) (tellsToo : other.Tells outcomeToo)
    (ended : Ended values matched (Outcome.result outcome) (Outcome.result outcomeToo))
    (abreast : Run.Abreast lines count (Outcome.final outcome) (Outcome.final outcomeToo)) :
    report.Resumes values matched lines count other := by
  constructor
  · rw [tells.result, tellsToo.result]
    exact ended
  · rw [tells.environment, tellsToo.environment, abreast.environment]
  · rw [tells.written, tellsToo.written, abreast.written]
  · rw [tells.completed, tellsToo.completed, abreast.completed]

theorem resumes_of_alike (refl : ∀ value, values value value)
    (alike : Alike (Stop.Matched matched) (Run.Abreast lines count) outcome outcomeToo)
    (tells : report.Tells outcome) (tellsToo : other.Tells outcomeToo) :
    report.Resumes values matched lines count other := by
  cases alike with
  | ok abreast => exact resumes_of_abreast tells tellsToo (.ok (refl _)) abreast
  | error fails abreast =>
    cases fails with
    | error same => exact resumes_of_abreast tells tellsToo (.error same) abreast

end Aligned

/-- Aligned programs come to the same: the same value or matching errors, the same environment, the same
lines and the same number of statements. -/
theorem execute_aligned {matched : Token → Token → Prop} {statements second : List Stmt}
    (same : ∀ {token other}, matched token other → token.Same other)
    (aligned : Stmt.Aligned matched statements second) (globals : Scope) (echo : Bool) :
    (execute statements (.global globals) echo none).Resumes Eq matched [] 0
      (execute second (.global globals) echo none) := by
  have ready : Run.Abreast [] 0 (.start globals statements) (.start globals second) :=
    ⟨rfl, rfl, rfl, rfl, rfl⟩
  exact resumes_of_alike (fun _ => rfl) (aligned.executeAll same [] 0 echo .nil _ _ ready)
    (execute_tells statements globals echo) (execute_tells second globals echo)

/-! Runs in two parts. -/

theorem executeAll_append (echo : Bool) (last : Value) (first second : List Stmt) :
    Stmt.executeAll Run.impatient echo last (first ++ second) = (do
      let value ← Stmt.executeAll Run.impatient echo last first
      Stmt.executeAll Run.impatient echo value second) := by
  induction first generalizing last with
  | nil => simp [Stmt.executeAll]
  | cons stmt rest ih =>
    rw [List.cons_append, Stmt.executeAll, Stmt.executeAll]
    simp only [ih, bind_assoc]

/-- The value before the statements matters only where there are none. -/
theorem executeAll_last (echo : Bool) (last other : Value) (statements : List Stmt) :
    statements = [] ∨ Stmt.executeAll Run.impatient echo last statements =
      Stmt.executeAll Run.impatient echo other statements := by
  cases statements with
  | nil => exact .inl rfl
  | cons stmt rest =>
    right
    rw [Stmt.executeAll, Stmt.executeAll]

theorem eq_global {environment : Environment} (alone : environment.outline.tail = []) :
    environment = .global environment.inner := by
  obtain ⟨inner, outer⟩ := environment
  have none : outer = [] := List.map_eq_nil_iff.mp alone
  rw [none]
  rfl

theorem executeAll_global {echo : Bool} {last value : Value} {statements : List Stmt} {run after : Run}
    {globals : Scope} (place : run.environment = .global globals) (patient : run.patience = none)
    (runs : Stmt.executeAll Run.impatient echo last statements run = .ok value after) :
    after.environment = .global after.environment.inner := by
  have visits := Stmt.executeAll_visits globals.names echo last statements run patient
    (place ▸ known_global globals)
  rw [runs] at visits
  obtain ⟨-, around, -, -⟩ := visits
  rw [place] at around
  exact eq_global around

/-- All blocks are closed where a run succeeds. -/
theorem execute_global {statements : List Stmt} {globals : Scope} {echo : Bool} {value : Value}
    (succeeds : (execute statements (.global globals) echo none).result = .ok value) :
    (execute statements (.global globals) echo none).environment =
      .global (execute statements (.global globals) echo none).environment.inner := by
  have tells := execute_tells statements globals echo
  cases runs : Stmt.executeAll Run.impatient echo .nil statements (.start globals statements) with
  | ok result after =>
    rw [runs] at tells
    rw [tells.environment]
    exact executeAll_global rfl rfl runs
  | error stop after =>
    rw [runs] at tells
    rw [tells.result] at succeeds
    cases succeeds

/-- Statements run after others do what they do in a run of their own, from where the others left off. -/
theorem execute_resumes {matched : Token → Token → Prop} {late back : List Stmt}
    (same : ∀ {token other}, matched token other → token.Same other)
    (behind : Stmt.Aligned matched late back) (echo : Bool) (passed : Value) {middle : Run}
    {globals : Scope} {report : RunReport} (place : middle.environment = .global globals)
    (patient : middle.patience = none)
    (tells : report.Tells (Stmt.executeAll Run.impatient echo passed late middle)) :
    report.Resumes (fun _ _ => True) matched middle.written middle.completed
      (execute back (.global globals) echo none) := by
  have ready : Run.Abreast middle.written middle.completed middle (.start globals back) :=
    ⟨place, patient, rfl, (List.append_nil _).symm, rfl⟩
  have tellsToo := execute_tells back globals echo
  rcases executeAll_last echo passed .nil back with none | continues
  · subst none
    cases behind
    rw [Stmt.executeAll] at tells tellsToo
    exact resumes_of_abreast tells tellsToo (.ok trivial) ready
  · have alike := behind.executeAll same middle.written middle.completed echo passed _ _ ready
    rw [continues] at alike
    exact resumes_of_alike (fun _ => trivial) alike tells tellsToo

section Parts

variable {matched matchedToo : Token → Token → Prop} {early front late back : List Stmt}
  (same : ∀ {token other}, matched token other → token.Same other)
  (sameToo : ∀ {token other}, matchedToo token other → token.Same other)
  (inFront : Stmt.Aligned matched early front) (behind : Stmt.Aligned matchedToo late back)

include same sameToo inFront behind

/-- A run in two parts. Where the first part succeeds, the whole goes on like the second from the
bindings left by the first; where the first part fails, the whole has failed just so. -/
theorem execute_append (globals : Scope) (echo : Bool) :
    let first := execute front (.global globals) echo none
    let whole := execute (early ++ late) (.global globals) echo none
    (∃ value, first.result = .ok value ∧ first.environment = .global first.environment.inner ∧
      whole.Resumes (fun _ _ => True) matchedToo first.written first.completed
        (execute back (.global first.environment.inner) echo none)) ∨
    ∃ error, first.result = .error (.error error) ∧ whole.Resumes Eq matched [] 0 first := by
  intro first whole
  have ready : Run.Abreast [] 0 (.start globals (early ++ late)) (.start globals front) :=
    ⟨rfl, rfl, rfl, rfl, rfl⟩
  have begins := inFront.executeAll same [] 0 echo .nil _ _ ready
  have tells : first.Tells _ := execute_tells front globals echo
  have tellsWhole : whole.Tells _ := execute_tells (early ++ late) globals echo
  rw [executeAll_append, bind_run] at tellsWhole
  cases runs : Stmt.executeAll Run.impatient echo .nil front (.start globals front) with
  | ok value between =>
    left
    rw [runs] at begins tells
    cases runsWhole : Stmt.executeAll Run.impatient echo .nil early (.start globals (early ++ late)) with
    | ok passed middle =>
      rw [runsWhole] at begins tellsWhole
      cases begins with
      | ok abreast =>
        -- The first part leaves nothing but bindings, so the second can start from them.
        have place : first.environment = .global first.environment.inner := execute_global tells.result
        have stays := (abreast.environment.trans tells.environment.symm).trans place
        have resumes := execute_resumes sameToo behind echo value stays abreast.patient tellsWhole
        rw [abreast.written, abreast.completed, List.nil_append, Nat.zero_add] at resumes
        refine ⟨value, tells.result, place, ?_⟩
        rw [tells.written, tells.completed]
        exact resumes
    | error stop middle =>
      rw [runsWhole] at begins
      cases begins
  | error stop after =>
    right
    rw [runs] at begins tells
    cases runsWhole : Stmt.executeAll Run.impatient echo .nil early (.start globals (early ++ late)) with
    | ok passed middle =>
      rw [runsWhole] at begins
      cases begins
    | error stopWhole middle =>
      rw [runsWhole] at begins tellsWhole
      have resumes := resumes_of_alike (fun _ => rfl) begins tellsWhole tells
      cases begins with
      | error fails _ =>
        cases fails with
        | error _ => exact ⟨_, tells.result, resumes⟩

end Parts

/-! Runs that succeed. -/

def RunsTo (echo : Bool) (statements : List Stmt) (globals after : Scope) (written : List ByteString) :
    Prop :=
  let report := execute statements (.global globals) echo none
  (∃ value, report.result = .ok value) ∧ report.environment = .global after ∧ report.written = written

theorem runsTo_of_ok {echo : Bool} {statements : List Stmt} {globals : Scope} {value : Value}
    (succeeds : (execute statements (.global globals) echo none).result = .ok value) :
    RunsTo echo statements globals (execute statements (.global globals) echo none).environment.inner
      (execute statements (.global globals) echo none).written :=
  ⟨⟨value, succeeds⟩, execute_global succeeds, rfl⟩

theorem runsTo_append {echo : Bool} {early front late back : List Stmt} {globals after : Scope}
    {written : List ByteString} (inFront : Stmt.Respells early front) (behind : Stmt.Respells late back)
    (runs : RunsTo echo (early ++ late) globals after written) :
    ∃ between lines more, RunsTo echo front globals between lines ∧
      RunsTo echo back between after more ∧ written = lines ++ more := by
  obtain ⟨⟨value, succeeds⟩, left, wrote⟩ := runs
  rcases execute_append id id inFront.aligned behind.aligned globals echo with
    ⟨passed, starts, place, resumes⟩ | ⟨error, fails, resumes⟩
  · rcases resumes.result.cases with ⟨_, last, -, continues, -⟩ | ⟨_, _, fails, -, -⟩
    · refine ⟨_, _, _, ⟨⟨passed, starts⟩, place, rfl⟩, ⟨⟨last, continues⟩, ?_, rfl⟩, ?_⟩
      · exact resumes.environment.symm.trans left
      · exact wrote.symm.trans resumes.written
    · cases succeeds.symm.trans fails
  · have ended := resumes.result
    rw [succeeds, fails] at ended
    cases ended

end Scriptlet
