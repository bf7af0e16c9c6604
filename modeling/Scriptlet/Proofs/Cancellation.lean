import Scriptlet.Proofs.Traces

/-! A run that is cancelled while it writes a line, beside the same run left alone. Cancelling is noticed
before the next statement, wherever in the program that is, so the one run is the other up to there: in
what it writes and records, in its count, and in what it has bound.

The point is one of the run left alone, and is told by its record: the first start of a statement when as
many lines are printed. -/
namespace Scriptlet

namespace Event

def isStatementStart : Event → Bool
  | statementStart .. => true
  | _ => false

end Event

def printed (events : List Event) : Nat := (events.filterMap Event.text?).length

def startsAfter : Nat → List Event → Bool
  | _, [] => false
  | count, event :: rest =>
    (count == 0 && event.isStatementStart) || startsAfter (count - printed [event]) rest

/-- The events before the first start of a statement when so many lines have been printed. -/
def upToStart : Nat → List Event → List Event
  | _, [] => []
  | count, event :: rest =>
    if count == 0 && event.isStatementStart then []
    else event :: upToStart (count - printed [event]) rest

section Cutting

variable {first second : List Event} {count : Nat}

theorem printed_append (first second : List Event) :
    printed (first ++ second) = printed first + printed second := by
  rw [printed, List.filterMap_append, List.length_append]
  rfl

theorem startsAfter_append (count : Nat) (first second : List Event) :
    startsAfter count (first ++ second) =
      (startsAfter count first || startsAfter (count - printed first) second) := by
  induction first generalizing count with
  | nil => rfl
  | cons event rest ih =>
    rw [List.cons_append, startsAfter, startsAfter, ih, Bool.or_assoc, Nat.sub_sub,
      ← printed_append, List.singleton_append]

theorem upToStart_append_of_starts (starts : startsAfter count first = true) :
    upToStart count (first ++ second) = upToStart count first := by
  induction first generalizing count with
  | nil => cases starts
  | cons event rest ih =>
    rw [List.cons_append, upToStart, upToStart]
    cases now : count == 0 && event.isStatementStart with
    | true => rfl
    | false =>
      rw [startsAfter, now, Bool.false_or] at starts
      rw [ih starts]

theorem upToStart_append_of_quiet (quiet : startsAfter count first = false) :
    upToStart count (first ++ second) = first ++ upToStart (count - printed first) second := by
  induction first generalizing count with
  | nil => rfl
  | cons event rest ih =>
    rw [startsAfter, Bool.or_eq_false_iff] at quiet
    rw [List.cons_append, upToStart, quiet.1, if_neg Bool.false_ne_true, ih quiet.2, Nat.sub_sub,
      ← printed_append, List.singleton_append, List.cons_append]

theorem upToStart_initial (count : Nat) (events : List Event) : upToStart count events <+: events := by
  induction events generalizing count with
  | nil => exact List.prefix_rfl
  | cons event rest ih =>
    rw [upToStart]
    split
    · exact List.nil_prefix
    · exact List.cons_prefix_cons.mpr ⟨rfl, ih _⟩

theorem startsAfter_of_no_start (count : Nat)
    (none : ∀ event ∈ first, event.isStatementStart = false) : startsAfter count first = false := by
  induction first generalizing count with
  | nil => rfl
  | cons event rest ih =>
    rw [startsAfter, none event List.mem_cons_self, Bool.and_false, Bool.false_or]
    exact ih _ fun other member => none other (List.mem_cons_of_mem _ member)

theorem startsAfter_opening (stmt : Stmt) (events : List Event) (some : 0 < count) :
    startsAfter count (.opening stmt :: events) = startsAfter count events := by
  rw [startsAfter, beq_false_of_ne (Nat.ne_of_gt some)]
  rfl

theorem upToStart_opening (stmt : Stmt) (events : List Event) (some : 0 < count) :
    upToStart count (.opening stmt :: events) = .opening stmt :: upToStart count events := by
  rw [upToStart, beq_false_of_ne (Nat.ne_of_gt some)]
  rfl

end Cutting

/-! The points of a run where a statement is about to start. -/

def Environment.leaveAll : Nat → Environment → Environment
  | 0, environment => environment
  | depth + 1, environment => (leaveAll depth environment).leave

namespace Run

def opened (run : Run) (stmt : Stmt) : Run := { run with events := run.events ++ [.opening stmt] }

def entered (run : Run) : Run := { run with environment := run.environment.enter }

def limited (run : Run) (count : Nat) : Run := { run with patience := some count }

/-- The run as it is given up inside so many blocks. -/
def abandoned (run : Run) (depth : Nat) : Run :=
  { run with environment := run.environment.leaveAll depth, patience := some 0 }

end Run

def Stmt.tracked (echo : Bool) (stmt : Stmt) : Execution Value :=
  Execution.tracked Run.impatient stmt.kindName stmt.line (stmt.execute Run.impatient echo)

theorem Stmt.executeAll_cons (echo : Bool) (last : Value) (stmt : Stmt) (rest : List Stmt) :
    executeAll Run.impatient echo last (stmt :: rest) =
      (stmt.tracked echo >>= fun value => executeAll Run.impatient echo value rest) := by
  rw [executeAll]
  rfl

/-- From a state, statements reach a state in which one of them is about to start, inside of so many
blocks. -/
inductive Reaches (echo : Bool) : List Stmt → Run → Nat → Run → Prop
  | here {stmt : Stmt} {rest : List Stmt} {run : Run} : Reaches echo (stmt :: rest) run 0 run
  | inside {brace : Token} {body rest : List Stmt} {run state : Run} {depth : Nat}
      (inner : Reaches echo body (run.opened (.block brace body)).entered depth state) :
      Reaches echo (.block brace body :: rest) run (depth + 1) state
  | later {stmt : Stmt} {rest : List Stmt} {run after state : Run} {depth : Nat} {value : Value}
      (ran : stmt.tracked echo run = .ok value after)
      (further : Reaches echo rest after depth state) : Reaches echo (stmt :: rest) run depth state

namespace Execution

def final : EStateM.Result Stop Run Value → Run
  | .ok _ after => after
  | .error _ after => after

def limitedTo (count : Nat) : EStateM.Result Stop Run Value → EStateM.Result Stop Run Value
  | .ok value after => .ok value (after.limited count)
  | .error stop after => .error stop (after.limited count)

def closed (stmt : Stmt) : EStateM.Result Stop Run Value → EStateM.Result Stop Run Value
  | .ok value after =>
    .ok value { after with events := after.events ++ [.closing stmt value], completed := after.completed + 1 }
  | .error stop after => .error stop after

def left : EStateM.Result Stop Run Value → EStateM.Result Stop Run Value
  | .ok value after => .ok value { after with environment := after.environment.leave }
  | .error stop after => .error stop { after with environment := after.environment.leave }

theorem inScope_run (inside : Execution Value) (run : Run) :
    inScope inside run = left (inside run.entered) := by
  rw [inScope, Run.entered]
  cases inside { run with environment := run.environment.enter } <;> rfl

theorem final_left (outcome : EStateM.Result Stop Run Value) :
    (final (left outcome)).events = (final outcome).events ∧
      (final (left outcome)).patience = (final outcome).patience := by
  cases outcome <;> exact ⟨rfl, rfl⟩

theorem left_limitedTo (count : Nat) (outcome : EStateM.Result Stop Run Value) :
    left (limitedTo count outcome) = limitedTo count (left outcome) := by
  cases outcome <;> rfl

theorem closed_adds {stmt : Stmt} {outcome : EStateM.Result Stop Run Value} {before : Run}
    {added : List Event} (adds : (final outcome).events = (before.opened stmt).events ++ added) :
    ∃ ending, (final (closed stmt outcome)).events =
        before.events ++ (.opening stmt :: added ++ ending) ∧
      printed ending = 0 ∧ ∀ count, startsAfter count ending = false := by
  have opens : (before.opened stmt).events ++ added = before.events ++ (.opening stmt :: added) :=
    List.append_assoc _ _ _
  rw [opens] at adds
  cases outcome with
  | ok value after =>
    refine ⟨[.closing stmt value], ?_, rfl, fun count => startsAfter_of_no_start count ?_⟩
    · rw [← List.append_assoc, ← adds]
      rfl
    · simp [Event.closing, Event.isStatementStart]
  | error stop after => exact ⟨[], by rw [List.append_nil, ← adds]; rfl, rfl, fun _ => rfl⟩

theorem closed_patience (stmt : Stmt) (outcome : EStateM.Result Stop Run Value) :
    (final (closed stmt outcome)).patience = (final outcome).patience := by
  cases outcome <;> rfl

theorem closed_limitedTo (stmt : Stmt) (count : Nat) (outcome : EStateM.Result Stop Run Value) :
    closed stmt (limitedTo count outcome) = limitedTo count (closed stmt outcome) := by
  cases outcome <;> rfl

end Execution

namespace Stmt

theorem tracked_cancelled (echo : Bool) (stmt : Stmt) (run : Run) :
    stmt.tracked echo (run.limited 0) = .error .cancelled (run.limited 0) :=
  rfl

theorem tracked_goes_on {echo : Bool} {stmt : Stmt} {run : Run} (patient : run.patience ≠ some 0) :
    stmt.tracked echo run = Execution.closed stmt (stmt.execute Run.impatient echo (run.opened stmt)) := by
  have goesOn : Execution.checkInterrupt Run.impatient run = .ok () run := by
    simp [Execution.checkInterrupt, Run.impatient, patient]
  rw [tracked, Execution.tracked, bind_of_ok _ goesOn]
  show (do
    let value ← stmt.execute Run.impatient echo
    modify fun run => { run with completed := run.completed + 1 }
    Execution.record (.closing stmt value)
    pure value : Execution Value) (run.opened stmt) = _
  rw [bind_run]
  cases stmt.execute Run.impatient echo (run.opened stmt) <;> rfl

end Stmt

/-- Two outcomes of one part of a run: that of the run left alone, and that of the run to be cancelled
after `count` lines. The two are the same, unless a statement starts when as many are printed; the run is
then given up where that one is about to start. -/
inductive Cuts (count : Nat) (reached : Nat → Run → Prop) (before : Run) :
    EStateM.Result Stop Run Value → EStateM.Result Stop Run Value → Prop
  | whole {outcome : EStateM.Result Stop Run Value} (added : List Event)
      (adds : (Execution.final outcome).events = before.events ++ added)
      (patient : (Execution.final outcome).patience = none)
      (quiet : startsAfter count added = false) (within : printed added ≤ count) :
      Cuts count reached before outcome (Execution.limitedTo (count - printed added) outcome)
  | cut {outcome : EStateM.Result Stop Run Value} {depth : Nat} {state : Run} (added : List Event)
      (adds : (Execution.final outcome).events = before.events ++ added)
      (patient : (Execution.final outcome).patience = none)
      (starts : startsAfter count added = true) (all : printed (upToStart count added) = count)
      (point : reached depth state) (there : state.events = before.events ++ upToStart count added) :
      Cuts count reached before outcome (.error .cancelled (state.abandoned depth))

section Cuts

variable {count : Nat} {reached : Nat → Run → Prop} {before : Run}

theorem Cuts.mono {reachedToo : Nat → Run → Prop} {outcome short : EStateM.Result Stop Run Value}
    (cuts : Cuts count reached before outcome short)
    (points : ∀ depth state, reached depth state → reachedToo depth state) :
    Cuts count reachedToo before outcome short := by
  cases cuts with
  | whole added adds patient quiet within => exact .whole added adds patient quiet within
  | cut added adds patient starts all point there =>
    exact .cut added adds patient starts all (points _ _ point) there

theorem Cuts.adds {outcome short : EStateM.Result Stop Run Value}
    (cuts : Cuts count reached before outcome short) :
    (Execution.final outcome).patience = none ∧
      ∃ added, (Execution.final outcome).events = before.events ++ added := by
  cases cuts with
  | whole added adds patient quiet within => exact ⟨patient, added, adds⟩
  | cut added adds patient starts all point there => exact ⟨patient, added, adds⟩

/-! Statements without others inside. They notice nothing. -/

theorem Cuts.nothing {outcome : EStateM.Result Stop Run Value}
    (adds : (Execution.final outcome).events = before.events)
    (patient : (Execution.final outcome).patience = none) :
    Cuts count reached before outcome (Execution.limitedTo count outcome) :=
  .whole [] (by rw [adds, List.append_nil]) patient rfl (Nat.zero_le _)

theorem evaluate_cuts {expr : Expr} {next : Value → Execution Value} (patient : before.patience = none)
    (goesOn : ∀ value environment, Cuts count reached before (next value { before with environment })
      (next value { before.limited count with environment })) :
    Cuts count reached before ((Execution.evaluate expr >>= next) before)
      ((Execution.evaluate expr >>= next) (before.limited count)) := by
  rw [bind_run, bind_run, Execution.evaluate, Execution.evaluate, Run.limited]
  cases expr.evaluate before.environment with
  | ok value environment => exact goesOn value environment
  | error error environment => exact .nothing rfl patient

theorem print_cuts {line : Int} {value : Value} {environment : Environment}
    (patient : before.patience = none) (some : 0 < count) :
    Cuts count reached before ((do Execution.print line value; pure value) { before with environment })
      ((do Execution.print line value; pure value) { before.limited count with environment }) := by
  have unlimited : before.patience.map (· - 1) = none := by rw [patient, Option.map_none]
  have quiet : startsAfter count [.print line value.text] = false :=
    startsAfter_of_no_start count (by simp [Event.isStatementStart])
  exact .whole [.print line value.text] rfl unlimited quiet some

theorem simple_cuts {echo : Bool} {stmt : Stmt} (single : ∀ brace body, stmt ≠ .block brace body)
    (patient : before.patience = none) (some : 0 < count) :
    Cuts count reached before (stmt.execute Run.impatient echo before)
      (stmt.execute Run.impatient echo (before.limited count)) := by
  cases stmt with
  | letIn name initializer =>
    rw [Stmt.execute]
    exact evaluate_cuts patient fun value environment => .nothing rfl patient
  | print keyword expr =>
    rw [Stmt.execute]
    exact evaluate_cuts patient fun value environment => print_cuts patient some
  | expression expr =>
    rw [Stmt.execute]
    refine evaluate_cuts patient fun value environment => ?_
    cases echo with
    | true => exact print_cuts patient some
    | false => exact .nothing rfl patient
  | block brace body => exact absurd rfl (single brace body)
  | hole => exact .nothing rfl patient

/-! What is around a part of a run. -/

theorem inScope_cuts {inside : Execution Value} {around : Nat → Run → Prop}
    (cuts : Cuts count reached before.entered (inside before.entered)
      (inside (before.entered.limited count)))
    (deeper : ∀ depth state, reached depth state → around (depth + 1) state) :
    Cuts count around before (Execution.inScope inside before)
      (Execution.inScope inside (before.limited count)) := by
  rw [Execution.inScope_run, Execution.inScope_run]
  change Cuts _ _ _ _ (Execution.left (inside (before.entered.limited count)))
  generalize inside before.entered = outcome at cuts
  generalize inside (before.entered.limited count) = short at cuts
  obtain ⟨events, patience⟩ := Execution.final_left outcome
  cases cuts with
  | whole added adds patient quiet within =>
    rw [Execution.left_limitedTo]
    exact .whole added (events.trans adds) (patience.trans patient) quiet within
  | @cut depth state added adds patient starts all point there =>
    -- One more scope is left on the way out.
    have outside : Execution.left (.error .cancelled (state.abandoned depth)) =
        .error .cancelled (state.abandoned (depth + 1)) := rfl
    rw [outside]
    exact .cut added (events.trans adds) (patience.trans patient) starts all (deeper _ _ point) there

theorem closed_cuts {stmt : Stmt} {outcome short : EStateM.Result Stop Run Value}
    (some : 0 < count) (cuts : Cuts count reached (before.opened stmt) outcome short) :
    Cuts count reached before (Execution.closed stmt outcome) (Execution.closed stmt short) := by
  cases cuts with
  | whole added adds patient quiet within =>
    obtain ⟨ending, records, unprinted, unstarted⟩ := Execution.closed_adds adds
    have lines : printed (.opening stmt :: added ++ ending) = printed added := by
      rw [printed_append, unprinted]
      rfl
    rw [Execution.closed_limitedTo, ← lines]
    refine .whole _ records ?_ ?_ (Nat.le_trans (Nat.le_of_eq lines) within)
    · rw [Execution.closed_patience, patient]
    · rw [startsAfter_append, unstarted, startsAfter_opening stmt added some, quiet]
      rfl
  | cut added adds patient starts all point there =>
    obtain ⟨ending, records, unprinted, unstarted⟩ := Execution.closed_adds adds
    have startsToo : startsAfter count (.opening stmt :: added) = true :=
      (startsAfter_opening stmt added some).trans starts
    have before_start : upToStart count (.opening stmt :: added ++ ending) =
        .opening stmt :: upToStart count added := by
      rw [upToStart_append_of_starts startsToo, upToStart_opening stmt added some]
    refine .cut _ records ?_ ?_ ?_ point ?_
    · rw [Execution.closed_patience, patient]
    · rw [startsAfter_append, startsToo, Bool.true_or]
    · rw [before_start]
      exact all
    · rw [before_start, there, Run.opened, List.append_assoc]
      rfl

theorem tracked_cuts {echo : Bool} {stmt : Stmt} (patient : before.patience = none)
    (here : reached 0 before)
    (cuts : ∀ count, 0 < count → Cuts count reached (before.opened stmt)
      (stmt.execute Run.impatient echo (before.opened stmt))
      (stmt.execute Run.impatient echo ((before.opened stmt).limited count))) :
    Cuts count reached before (stmt.tracked echo before) (stmt.tracked echo (before.limited count)) := by
  have unlimited : before.patience ≠ some 0 := by simp [patient]
  rw [Stmt.tracked_goes_on unlimited]
  cases count with
  | zero =>
    -- The run left alone goes on, and what it adds begins with the start.
    obtain ⟨patientToo, added, adds⟩ := (cuts 1 Nat.one_pos).adds
    obtain ⟨ending, records, -, -⟩ := Execution.closed_adds adds
    rw [Stmt.tracked_cancelled]
    refine .cut _ records ?_ rfl rfl here (List.append_nil _).symm
    rw [Execution.closed_patience, patientToo]
  | succ more =>
    have limited : (before.limited (more + 1)).patience ≠ some 0 := by simp [Run.limited]
    rw [Stmt.tracked_goes_on limited]
    exact closed_cuts more.succ_pos (cuts _ more.succ_pos)

theorem Cuts.after {middle : Run} {added : List Event} {outcome short : EStateM.Result Stop Run Value}
    (adds : middle.events = before.events ++ added) (quiet : startsAfter count added = false)
    (within : printed added ≤ count) (cuts : Cuts (count - printed added) reached middle outcome short) :
    Cuts count reached before outcome short := by
  have starts_later (events : List Event) :
      startsAfter count (added ++ events) = startsAfter (count - printed added) events := by
    rw [startsAfter_append, quiet, Bool.false_or]
  cases cuts with
  | whole more addsToo patient quietToo withinToo =>
    have lines : count - printed added - printed more = count - printed (added ++ more) := by
      rw [printed_append, Nat.sub_sub]
    rw [lines]
    refine .whole _ ?_ patient ((starts_later more).trans quietToo) ?_
    · rw [addsToo, adds, List.append_assoc]
    · rw [printed_append]
      omega
  | cut more addsToo patient starts all point there =>
    have later : upToStart count (added ++ more) = _ := upToStart_append_of_quiet quiet
    refine .cut _ ?_ patient ((starts_later more).trans starts) ?_ point ?_
    · rw [addsToo, adds, List.append_assoc]
    · rw [later, printed_append, all]
      omega
    · rw [later, there, adds, List.append_assoc]

theorem bind_cuts {first : Execution Value} {next : Value → Execution Value}
    (cuts : Cuts count reached before (first before) (first (before.limited count)))
    (further : ∀ value after count, first before = .ok value after → after.patience = none →
      Cuts count reached after (next value after) (next value (after.limited count))) :
    Cuts count reached before ((first >>= next) before) ((first >>= next) (before.limited count)) := by
  -- One part after another: what the first notices, or else what the second does.
  rw [bind_run, bind_run]
  generalize first (before.limited count) = short at cuts
  cases outcome : first before with
  | error stop after =>
    rw [outcome] at cuts
    cases cuts with
    | whole added adds patient quiet within => exact .whole added adds patient quiet within
    | cut added adds patient starts all point there => exact .cut added adds patient starts all point there
  | ok value after =>
    rw [outcome] at cuts
    cases cuts with
    | whole added adds patient quiet within =>
      exact .after adds quiet within (further value after _ outcome patient)
    | cut added adds patient starts all point there =>
      obtain ⟨patientToo, more, addsToo⟩ := (further value after 0 outcome patient).adds
      have records : (Execution.final (next value after)).events = before.events ++ (added ++ more) := by
        rw [addsToo, ← List.append_assoc, ← adds]
        rfl
      refine .cut _ records patientToo ?_ ?_ point ?_
      · rw [startsAfter_append, starts, Bool.true_or]
      · rw [upToStart_append_of_starts starts, all]
      · rw [upToStart_append_of_starts starts, there]

mutual

theorem Stmt.execute_cuts (echo : Bool) (stmt : Stmt) (before : Run) (patient : before.patience = none)
    (count : Nat) (some : 0 < count) :
    Cuts count (fun depth state => ∀ rest, Reaches echo (stmt :: rest) before depth state)
      (before.opened stmt) (stmt.execute Run.impatient echo (before.opened stmt))
      (stmt.execute Run.impatient echo ((before.opened stmt).limited count)) := by
  cases stmt with
  | block brace body =>
    rw [Stmt.execute]
    let entered := (before.opened (.block brace body)).entered
    refine inScope_cuts (Stmt.executeAll_cuts echo .nil body entered patient count) ?_
    intro depth state inner rest
    exact .inside inner
  | _ => exact simple_cuts (fun _ _ => nofun) patient some

theorem Stmt.executeAll_cuts (echo : Bool) (last : Value) (statements : List Stmt) (before : Run)
    (patient : before.patience = none) (count : Nat) :
    Cuts count (Reaches echo statements before) before (executeAll Run.impatient echo last statements before)
      (executeAll Run.impatient echo last statements (before.limited count)) := by
  cases statements with
  | nil => exact .nothing rfl patient
  | cons stmt rest =>
    rw [Stmt.executeAll_cons]
    refine bind_cuts (tracked_cuts patient .here fun count some => ?_) ?_
    · exact (Stmt.execute_cuts echo stmt before patient count some).mono fun depth state inside =>
        inside rest
    · intro value after count ran patientToo
      exact (Stmt.executeAll_cuts echo value rest after patientToo count).mono fun depth state later =>
        .later ran later

end

end Cuts

/-! A point of a run is known by how much is recorded there. -/

section Points

variable {echo : Bool} {stmt : Stmt} {rest statements : List Stmt} {run state : Run} {depth : Nat}

theorem tracked_grows (echo : Bool) (stmt : Stmt) (patient : run.patience = none) :
    (Execution.final (stmt.tracked echo run)).patience = none ∧
      run.events.length < (Execution.final (stmt.tracked echo run)).events.length := by
  have unlimited : run.patience ≠ some 0 := by simp [patient]
  obtain ⟨patientToo, added, adds⟩ := (Stmt.execute_cuts echo stmt run patient 1 Nat.one_pos).adds
  obtain ⟨ending, records, -, -⟩ := Execution.closed_adds adds
  rw [Stmt.tracked_goes_on unlimited, Execution.closed_patience]
  refine ⟨patientToo, ?_⟩
  rw [records]
  simp

theorem ran_grows {after : Run} {value : Value} (ran : stmt.tracked echo run = .ok value after)
    (patient : run.patience = none) :
    after.patience = none ∧ run.events.length < after.events.length := by
  have grows := tracked_grows echo stmt patient
  rwa [ran] at grows

theorem executeAll_grows (last : Value) (patient : run.patience = none) :
    (Execution.final (stmt.tracked echo run)).events.length ≤
      (Execution.final (Stmt.executeAll Run.impatient echo last (stmt :: rest) run)).events.length := by
  rw [Stmt.executeAll_cons, bind_run]
  cases outcome : stmt.tracked echo run with
  | ok value after =>
    have patientToo := (ran_grows outcome patient).1
    obtain ⟨-, added, adds⟩ := (Stmt.executeAll_cuts echo value rest after patientToo 0).adds
    dsimp only
    rw [adds, List.length_append]
    exact Nat.le_add_right _ _
  | error stop after => exact Nat.le_refl _

theorem block_grows {brace : Token} {body : List Stmt} (patient : run.patience = none) :
    (Execution.final
        (Stmt.executeAll Run.impatient echo .nil body (run.opened (.block brace body)).entered)).events.length ≤
      (Execution.final ((Stmt.block brace body).tracked echo run)).events.length := by
  have unlimited : run.patience ≠ some 0 := by simp [patient]
  rw [Stmt.tracked_goes_on unlimited, Stmt.execute, Execution.inScope_run]
  cases Stmt.executeAll Run.impatient echo .nil body (run.opened (.block brace body)).entered with
  | ok value after => simp [Execution.final, Execution.left, Execution.closed]
  | error stop after => exact Nat.le_refl _

theorem reaches_within (reaches : Reaches echo statements run depth state)
    (patient : run.patience = none) :
    run.events.length ≤ state.events.length ∧
      ∀ last, state.events.length <
        (Execution.final (Stmt.executeAll Run.impatient echo last statements run)).events.length := by
  induction reaches with
  | here => exact ⟨Nat.le_refl _, fun last =>
      Nat.lt_of_lt_of_le (tracked_grows _ _ patient).2 (executeAll_grows last patient)⟩
  | inside inner ih =>
    obtain ⟨opens, ends⟩ := ih patient
    refine ⟨Nat.le_trans ?_ opens, fun last => ?_⟩
    · simp [Run.entered, Run.opened]
    · exact Nat.lt_of_lt_of_le (ends .nil)
        (Nat.le_trans (block_grows patient) (executeAll_grows last patient))
  | later ran further ih =>
    have grows := ran_grows ran patient
    obtain ⟨starts, ends⟩ := ih grows.1
    refine ⟨Nat.le_of_lt (Nat.lt_of_lt_of_le grows.2 starts), fun last => ?_⟩
    rw [Stmt.executeAll_cons, bind_of_ok _ ran]
    exact ends _

theorem inside_within {brace : Token} {body : List Stmt}
    (inner : Reaches echo body (run.opened (.block brace body)).entered depth state)
    (patient : run.patience = none) :
    run.events.length < state.events.length ∧
      state.events.length <
        (Execution.final ((Stmt.block brace body).tracked echo run)).events.length := by
  obtain ⟨opens, ends⟩ := reaches_within inner patient
  refine ⟨Nat.lt_of_lt_of_le ?_ opens, Nat.lt_of_lt_of_le (ends .nil) (block_grows patient)⟩
  simp [Run.entered, Run.opened]

theorem later_within {after : Run} {value : Value} (ran : stmt.tracked echo run = .ok value after)
    (further : Reaches echo rest after depth state) (patient : run.patience = none) :
    run.events.length < state.events.length ∧
      (Execution.final (stmt.tracked echo run)).events.length ≤ state.events.length := by
  have grows := ran_grows ran patient
  have starts := (reaches_within further grows.1).1
  rw [ran]
  exact ⟨Nat.lt_of_lt_of_le grows.2 starts, starts⟩

theorem reaches_unique {depthToo : Nat} {stateToo : Run}
    (reaches : Reaches echo statements run depth state)
    (reachesToo : Reaches echo statements run depthToo stateToo) (patient : run.patience = none)
    (same : state.events.length = stateToo.events.length) : depthToo = depth ∧ stateToo = state := by
  induction reaches generalizing depthToo stateToo with
  | here =>
    cases reachesToo with
    | here => exact ⟨rfl, rfl⟩
    | inside inner =>
      have apart := inside_within inner patient
      omega
    | later ran further =>
      have apart := later_within ran further patient
      omega
  | inside inner ih =>
    cases reachesToo with
    | here =>
      have apart := inside_within inner patient
      omega
    | inside innerToo =>
      obtain ⟨rfl, rfl⟩ := ih innerToo patient same
      exact ⟨rfl, rfl⟩
    | later ran further =>
      have ends := (inside_within inner patient).2
      have starts := (later_within ran further patient).2
      omega
  | later ran further ih =>
    cases reachesToo with
    | here =>
      have apart := later_within ran further patient
      omega
    | inside innerToo =>
      have ends := (inside_within innerToo patient).2
      have starts := (later_within ran further patient).2
      omega
    | later ranToo furtherToo =>
      rw [ran] at ranToo
      cases ranToo
      exact ih furtherToo (ran_grows ran patient).1 same

end Points

/-! Whole runs. -/

theorem execute_ofOutcome (statements : List Stmt) (environment : Environment) (echo : Bool)
    (patience : Option Nat) :
    execute statements environment echo patience =
      .ofOutcome (Stmt.executeAll Run.impatient echo .nil statements
        ⟨environment, [], [.runStart statements.length], 0, patience⟩) :=
  rfl

theorem ofOutcome_limitedTo (count : Nat) (outcome : EStateM.Result Stop Run Value) :
    RunReport.ofOutcome (Execution.limitedTo count outcome) = .ofOutcome outcome := by
  cases outcome <;> rfl

theorem ofOutcome_events (outcome : EStateM.Result Stop Run Value) :
    ∃ ending, (RunReport.ofOutcome outcome).events = (Execution.final outcome).events ++ ending ∧
      ∀ count, startsAfter count ending = false := by
  cases outcome with
  | ok value after =>
    refine ⟨_, List.append_assoc _ _ _, fun count => startsAfter_of_no_start count ?_⟩
    simp [errorEvents, Event.isStatementStart]
  | error stop after =>
    refine ⟨_, List.append_assoc _ _ _, fun count => startsAfter_of_no_start count ?_⟩
    cases stop <;> simp [errorEvents, Event.isStatementStart]

theorem execute_texts (statements : List Stmt) (environment : Environment) (echo : Bool)
    (patience : Option Nat) :
    let report := execute statements environment echo patience
    report.written = report.events.filterMap Event.text? ∧
      report.completed = report.events.countP Event.isStatementEnd := by
  obtain ⟨body, around, holds⟩ :=
    executeUntil_holds Run.impatient statements environment echo patience
  exact ⟨holds_texts holds, holds_count holds⟩

theorem texts_upToStart {count : Nat} {events : List Event}
    (all : printed (upToStart count events) = count) :
    (upToStart count events).filterMap Event.text? = (events.filterMap Event.text?).take count := by
  have initial := (upToStart_initial count events).filterMap Event.text?
  rw [List.prefix_iff_eq_take] at initial
  rwa [show ((upToStart count events).filterMap Event.text?).length = count from all] at initial

/-- The two runs as a whole: the same, or the one given up at a point of the other. -/
theorem execute_cuts (statements : List Stmt) (environment : Environment) (echo : Bool) (count : Nat) :
    let alone := execute statements environment echo none
    let cancelled := execute statements environment echo (some count)
    (startsAfter count alone.events = false ∧ cancelled = alone) ∨
      (startsAfter count alone.events = true ∧ printed (upToStart count alone.events) = count ∧
        ∃ depth state,
          Reaches echo statements ⟨environment, [], [.runStart statements.length], 0, none⟩ depth
            state ∧
          state.events = upToStart count alone.events ∧
          cancelled = .close (.error .cancelled) (state.abandoned depth)) := by
  let start : Run := ⟨environment, [], [.runStart statements.length], 0, none⟩
  have cuts := Stmt.executeAll_cuts echo .nil statements start rfl count
  have limited : execute statements environment echo (some count) =
      .ofOutcome (Stmt.executeAll Run.impatient echo .nil statements (start.limited count)) :=
    execute_ofOutcome statements environment echo (some count)
  rw [limited, execute_ofOutcome statements environment echo none]
  generalize Stmt.executeAll Run.impatient echo .nil statements (start.limited count) = short at cuts
  change Cuts _ _ _ (Stmt.executeAll Run.impatient echo .nil statements start) short at cuts
  generalize Stmt.executeAll Run.impatient echo .nil statements start = outcome at cuts
  obtain ⟨ending, closes, unstarted⟩ := ofOutcome_events outcome
  have begins : startsAfter count start.events = false :=
    startsAfter_of_no_start count (by simp [start, Event.isStatementStart])
  cases cuts with
  | whole added adds patient quiet within =>
    refine .inl ⟨?_, ofOutcome_limitedTo _ outcome⟩
    rw [closes, adds, startsAfter_append, unstarted, startsAfter_append, begins]
    exact (Bool.or_false _).trans quiet
  | @cut depth state added adds patient starts all point there =>
    have startsToo : startsAfter count (start.events ++ added) = true := by
      rw [startsAfter_append, begins]
      exact starts
    have cutThere : upToStart count (RunReport.ofOutcome outcome).events =
        start.events ++ upToStart count added := by
      rw [closes, adds, upToStart_append_of_starts startsToo, upToStart_append_of_quiet begins]
      rfl
    refine .inr ⟨?_, ?_, depth, state, point, there.trans cutThere.symm, rfl⟩
    · rw [closes, adds, startsAfter_append, startsToo, Bool.true_or]
    · rw [cutThere, printed_append, all]
      exact Nat.zero_add count

/-- A run cancelled while it writes its `count`-th line, or before it starts when that is 0, beside the
same run left alone. If no statement starts there once as many lines are printed, the two are the same in
all they come to. Otherwise the cancelled run writes the first `count` lines and no others, its record is
the other's before the first such start, it counts the statements that ended until then, and it comes out
as cancelled. What it has bound is what the other has bound at that point, the scopes of the blocks
around it left. -/
theorem cancelled_run_is_cut (statements : List Stmt) (environment : Environment) (echo : Bool)
    (count : Nat) :
    let alone := execute statements environment echo none
    let cancelled := execute statements environment echo (some count)
    let start : Run := ⟨environment, [], [.runStart statements.length], 0, none⟩
    (startsAfter count alone.events = false → cancelled = alone) ∧
      (startsAfter count alone.events = true →
        count ≤ alone.written.length ∧ cancelled.written = alone.written.take count ∧
        cancelled.events = upToStart count alone.events ++ [.runEnd cancelled.completed] ∧
        cancelled.completed = (upToStart count alone.events).countP Event.isStatementEnd ∧
        cancelled.result = .error .cancelled ∧
        (∃ depth state, Reaches echo statements start depth state ∧
          state.events = upToStart count alone.events) ∧
        ∀ depth state, Reaches echo statements start depth state →
          state.events = upToStart count alone.events →
            cancelled.environment = state.environment.leaveAll depth) := by
  intro alone cancelled start
  obtain ⟨texts, ends⟩ : cancelled.written = _ ∧ cancelled.completed = _ :=
    execute_texts statements environment echo (some count)
  have aloneTexts : alone.written = _ := (execute_texts statements environment echo none).1
  obtain ⟨never, same⟩ | ⟨starts, all, depth, state, point, there, given⟩ :
      (startsAfter count alone.events = false ∧ cancelled = alone) ∨ _ :=
    execute_cuts statements environment echo count
  · refine ⟨fun _ => same, fun starts => ?_⟩
    exact absurd (never.symm.trans starts) Bool.false_ne_true
  · change cancelled = _ at given
    have records : cancelled.events = upToStart count alone.events ++ [.runEnd cancelled.completed] := by
      rw [← there, given]
      show state.events ++ [] ++ _ = _
      rw [List.append_nil]
      rfl
    have lines : cancelled.written = alone.written.take count := by
      rw [texts, records, List.filterMap_append, texts_upToStart all, ← aloneTexts]
      exact List.append_nil _
    refine ⟨fun never => absurd (never.symm.trans starts) Bool.false_ne_true, fun _ =>
      ⟨?_, lines, records, ?_, ?_, ⟨depth, state, point, there⟩, ?_⟩⟩
    · have enough : (alone.written.take count).length = count := by
        rw [aloneTexts, ← texts_upToStart all]
        exact all
      rw [← enough]
      exact List.length_take_le' _ _
    · rw [ends, records, List.countP_append]
      rfl
    · rw [given]
      rfl
    · intro depthToo stateToo pointToo thereToo
      obtain ⟨rfl, rfl⟩ := reaches_unique point pointToo rfl (by rw [there, thereToo])
      rw [given]
      rfl

/-- A block that prints as its last statement, and another statement after it. The run cancelled while it
writes the block's line stops between the two, the block ended and left. -/
theorem cancelled_run_is_cut_after_block :
    let shows (value : Bool) : Stmt := .print .nowhere (.boolean .nowhere value)
    let program : List Stmt := [.block .nowhere [shows true, shows false], shows true]
    let cancelled := execute program ⟨.empty, []⟩ false (some 2)
    startsAfter 2 (execute program ⟨.empty, []⟩ false none).events = true ∧
      cancelled.written = [.text "true", .text "false"] ∧ cancelled.completed = 3 ∧
      cancelled.result = .error .cancelled := by
  intro shows program cancelled
  obtain ⟨-, cut⟩ := cancelled_run_is_cut program ⟨.empty, []⟩ false 2
  have starts : startsAfter 2 (execute program ⟨.empty, []⟩ false none).events = true := by decide +kernel
  obtain ⟨-, written, -, completed, result, -⟩ := cut starts
  refine ⟨starts, written.trans ?_, completed.trans ?_, result⟩
  · decide +kernel
  · decide +kernel

end Scriptlet
