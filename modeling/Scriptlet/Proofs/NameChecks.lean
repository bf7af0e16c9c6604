import Scriptlet.Execution
import Scriptlet.Names
import Scriptlet.Proofs.Scopes
import Scriptlet.Proofs.Sequencing

/-! The check of names against the run. Both come to the same places in the same order; a run stops at
the first that fails, and the check reports those that fail for want of a name. -/
namespace Scriptlet

/-- A place where a run may fail: a name that is read or assigned, an operator that is applied, or a
missing node. -/
structure Site where
  token : Token
  unbound : Bool

namespace Site

def ofName (known : List ByteString) (name : Token) : Site :=
  ⟨name, !known.contains name.lexeme⟩

def ofOperator (operator : Token) : Site := ⟨operator, false⟩

def missing : Site := ⟨.nowhere, false⟩

def Raises (site : Site) (error : RuntimeError) : Prop :=
  error.token = site.token ∧
    (site.unbound = true → error = .undefined site.token) ∧
    (site.unbound = false → error.fault.code ≠ "E_UNDEFINED")

end Site

def Expr.sites (known : List ByteString) : Expr → List Site
  | reference name => [.ofName known name]
  | assign name value => value.sites known ++ [.ofName known name]
  | binary left operator right => left.sites known ++ (right.sites known ++ [.ofOperator operator])
  | unary operator operand => operand.sites known ++ [.ofOperator operator]
  | grouping _ inner => inner.sites known
  | hole => [.missing]
  | _ => []

namespace Stmt

mutual

def sites (known : List ByteString) : Stmt → List Site
  | letIn _ initializer => initializer.sites known
  | print _ value => value.sites known
  | expression value => value.sites known
  | block _ body => allSites known body
  | hole => [.missing]

def allSites (known : List ByteString) : List Stmt → List Site
  | [] => []
  | stmt :: rest => stmt.sites known ++ allSites (stmt.extend known) rest

end

end Stmt

def unboundNames (sites : List Site) : List Token :=
  (sites.filter (·.unbound)).map (·.token)

theorem unboundNames_append (first second : List Site) :
    unboundNames (first ++ second) = unboundNames first ++ unboundNames second := by
  simp [unboundNames]

theorem unboundNames_ofName (known : List ByteString) (name : Token) :
    unboundNames [.ofName known name] = if known.contains name.lexeme then [] else [name] := by
  cases found : known.contains name.lexeme <;> simp_all [unboundNames, Site.ofName]

theorem unboundNames_eq_nil {sites : List Site} :
    unboundNames sites = [] ↔ ∀ site ∈ sites, site.unbound = false := by
  simp [unboundNames, List.filter_eq_nil_iff]

theorem Expr.unknownNames_eq (known : List ByteString) (expr : Expr) :
    expr.unknownNames known = unboundNames (expr.sites known) := by
  induction expr with
  | reference name => simp [unknownNames, sites, unboundNames_ofName]
  | assign name value ih => simp [unknownNames, sites, unboundNames_append, unboundNames_ofName, ih]
  | binary left operator right leftIH rightIH =>
    simp [unknownNames, sites, leftIH, rightIH, unboundNames, Site.ofOperator]
  | unary operator operand ih =>
    simp [unknownNames, sites, ih, unboundNames, Site.ofOperator]
  | grouping paren inner ih => exact ih
  | _ => rfl

namespace Stmt

mutual

theorem unknownNames_eq (known : List ByteString) (stmt : Stmt) :
    stmt.unknownNames known = unboundNames (stmt.sites known) := by
  cases stmt with
  | letIn name initializer => exact initializer.unknownNames_eq known
  | print keyword value => exact value.unknownNames_eq known
  | expression value => exact value.unknownNames_eq known
  | block brace body => exact allUnknownNames_eq known body
  | hole => rfl

/-- The check reports the unbound places, in the order of evaluation. -/
theorem allUnknownNames_eq (known : List ByteString) (statements : List Stmt) :
    allUnknownNames known statements = unboundNames (allSites known statements) := by
  cases statements with
  | nil => rfl
  | cons stmt rest =>
    rw [allUnknownNames, allSites, unboundNames_append, unknownNames_eq known stmt,
      allUnknownNames_eq (stmt.extend known) rest]

end

end Stmt

/-- An error raised at the first of the places that fails; none before it is unbound. -/
def Blames (sites : List Site) (error : RuntimeError) : Prop :=
  ∃ before site after, sites = before ++ site :: after ∧
    (∀ earlier ∈ before, earlier.unbound = false) ∧ site.Raises error

theorem blames_append {first : List Site} {error : RuntimeError} (second : List Site)
    (blames : Blames first error) : Blames (first ++ second) error := by
  obtain ⟨before, site, after, rfl, bound, raises⟩ := blames
  exact ⟨before, site, after ++ second, by simp, bound, raises⟩

theorem blames_after {first second : List Site} {error : RuntimeError}
    (passed : ∀ site ∈ first, site.unbound = false) (blames : Blames second error) :
    Blames (first ++ second) error := by
  obtain ⟨before, site, after, rfl, bound, raises⟩ := blames
  refine ⟨first ++ before, site, after, by simp, ?_, raises⟩
  intro earlier member
  rcases List.mem_append.mp member with early | late
  · exact passed earlier early
  · exact bound earlier late

theorem blames_single {site : Site} {error : RuntimeError} (raises : site.Raises error) :
    Blames [site] error :=
  ⟨[], site, [], rfl, by simp, raises⟩

def Known (known : List ByteString) (environment : Environment) : Prop :=
  ∀ name, known.contains name = environment.binds name

theorem known_of_outline {known : List ByteString} {environment after : Environment}
    (knows : Known known environment) (same : after.outline = environment.outline) :
    Known known after := by
  intro name
  rw [knows name, Environment.binds_of_outline same]

theorem known_define {known : List ByteString} {environment : Environment} (name : ByteString)
    (value : Value) (knows : Known known environment) :
    Known (name :: known) (environment.define name value) := by
  intro sought
  rw [List.contains_cons, Environment.binds_define, knows sought]
  rfl

theorem known_enter {known : List ByteString} {environment : Environment}
    (knows : Known known environment) : Known known environment.enter := by
  intro name
  rw [knows name, Environment.binds_enter]

theorem known_global (scope : Scope) : Known scope.names (.global scope) := by
  intro name
  rw [← Scope.binds_iff_mem_names]
  simp [Environment.binds, Environment.global, Environment.scopes]

namespace Arithmetic

theorem fault_code {operation : Arithmetic} {left right : Value} {fault : RuntimeFault}
    (failed : operation.apply left right = .error fault) : fault.code ≠ "E_UNDEFINED" := by
  unfold apply at failed
  split at failed
  all_goals first
    | (split at failed <;> cases failed <;> simp [RuntimeFault.code])
    | (cases failed; simp [RuntimeFault.code])

end Arithmetic

namespace BinaryOperator

theorem fault_code {operator : BinaryOperator} {left right : Value} {fault : RuntimeFault}
    (failed : operator.apply left right = .error fault) : fault.code ≠ "E_UNDEFINED" := by
  cases operator with
  | arithmetic operation => exact Arithmetic.fault_code failed
  | comparison operation =>
    simp only [apply, Comparison.apply] at failed
    split at failed <;> cases failed
    simp [RuntimeFault.code]
  | equal =>
    simp only [apply] at failed
    split at failed <;> cases failed
    simp [RuntimeFault.code]
  | unequal =>
    simp only [apply] at failed
    split at failed <;> cases failed
    simp [RuntimeFault.code]

end BinaryOperator

namespace UnaryOperator

theorem fault_code {operator : UnaryOperator} {operand : Value} {fault : RuntimeFault}
    (failed : operator.apply operand = .error fault) : fault.code ≠ "E_UNDEFINED" := by
  cases operator with
  | not => cases failed
  | negate =>
    simp only [apply] at failed
    split at failed <;> cases failed
    simp [RuntimeFault.code]

end UnaryOperator

namespace Evaluation

variable {α β : Type} {known : List ByteString} {first second : List Site}

/-- An evaluation that comes to these places, one after the other: where it succeeds none of them is
unbound, and where it fails it fails at one of them. -/
def Visits (known : List ByteString) (sites : List Site) (evaluation : Evaluation α) : Prop :=
  ∀ environment, Known known environment →
    match evaluation environment with
    | .ok _ after => after.outline = environment.outline ∧ ∀ site ∈ sites, site.unbound = false
    | .error error _ => Blames sites error

theorem visits_pure (value : α) : Visits known [] (pure value) := by
  intro environment _
  exact ⟨rfl, by simp⟩

theorem visits_bind {evaluation : Evaluation α} {next : α → Evaluation β}
    (start : Visits known first evaluation) (finish : ∀ value, Visits known second (next value)) :
    Visits known (first ++ second) (evaluation >>= next) := by
  intro environment knows
  have ofFirst := start environment knows
  rw [bind_run]
  cases outcome : evaluation environment with
  | error error middle =>
    rw [outcome] at ofFirst
    exact blames_append second ofFirst
  | ok value middle =>
    rw [outcome] at ofFirst
    obtain ⟨same, passed⟩ := ofFirst
    have ofSecond := finish value middle (known_of_outline knows same)
    dsimp only
    cases final : next value middle with
    | error error after =>
      rw [final] at ofSecond
      exact blames_after passed ofSecond
    | ok result after =>
      rw [final] at ofSecond
      exact ⟨ofSecond.1.trans same, List.forall_mem_append.mpr ⟨passed, ofSecond.2⟩⟩

theorem visits_fail {fault : RuntimeFault} (token : Token) (other : fault.code ≠ "E_UNDEFINED") :
    Visits known [⟨token, false⟩] (fail fault token : Evaluation α) := by
  intro environment _
  exact blames_single ⟨rfl, by simp, fun _ => other⟩

theorem visits_applied (operator : Token) {result : Except RuntimeFault Value}
    (other : ∀ fault, result = .error fault → fault.code ≠ "E_UNDEFINED") :
    Visits known [.ofOperator operator] (applied operator result) := by
  cases result with
  | ok value =>
    intro environment _
    exact ⟨rfl, by simp [Site.ofOperator]⟩
  | error fault => exact visits_fail operator (other fault rfl)

theorem raises_undefined (name : Token) {environment : Environment} (knows : Known known environment)
    (unbound : environment.binds name.lexeme = false) :
    (Site.ofName known name).Raises (.undefined name) := by
  refine ⟨rfl, fun _ => rfl, fun bound => ?_⟩
  rw [Site.ofName, knows, unbound] at bound
  simp at bound

theorem ofName_bound (name : Token) {environment : Environment} (knows : Known known environment)
    (bound : environment.binds name.lexeme = true) :
    ∀ site ∈ [Site.ofName known name], site.unbound = false := by
  simp only [List.mem_singleton, forall_eq, Site.ofName]
  rw [knows, bound]
  rfl

theorem visits_get (name : Token) : Visits known [.ofName known name] (get name) := by
  intro environment knows
  have bound := environment.lookup?_isSome name.lexeme
  cases found : environment.lookup? name.lexeme with
  | none =>
    simp only [get, found]
    rw [found] at bound
    exact blames_single (raises_undefined name knows bound.symm)
  | some value =>
    simp only [get, found, true_and]
    rw [found] at bound
    exact ofName_bound name knows bound.symm

theorem visits_assign (name : Token) (value : Value) :
    Visits known [.ofName known name] (assign name value) := by
  intro environment knows
  have bound := environment.assign?_isSome name.lexeme value
  cases assigned : environment.assign? name.lexeme value with
  | none =>
    simp only [assign, assigned]
    rw [assigned] at bound
    exact blames_single (raises_undefined name knows bound.symm)
  | some changed =>
    simp only [assign, assigned]
    rw [assigned] at bound
    exact ⟨Environment.assign?_outline assigned, ofName_bound name knows bound.symm⟩

end Evaluation

/-- Evaluation comes to the places of an expression in their order. -/
theorem Expr.evaluate_visits (known : List ByteString) (expr : Expr) :
    Evaluation.Visits known (expr.sites known) expr.evaluate := by
  induction expr with
  | reference name => exact Evaluation.visits_get name
  | assign name value ih =>
    refine Evaluation.visits_bind ih fun result => ?_
    rw [← List.append_nil [Site.ofName known name]]
    exact Evaluation.visits_bind (Evaluation.visits_assign name result) fun _ => Evaluation.visits_pure _
  | grouping paren inner ih => exact ih
  | unary operator operand ih =>
    refine Evaluation.visits_bind ih fun value => ?_
    cases UnaryOperator.ofKind? operator.kind with
    | some operation => exact Evaluation.visits_applied operator fun _ => UnaryOperator.fault_code
    | none => exact Evaluation.visits_fail operator (by simp [RuntimeFault.code])
  | binary left operator right leftIH rightIH =>
    refine Evaluation.visits_bind leftIH fun first => ?_
    refine Evaluation.visits_bind rightIH fun second => ?_
    cases BinaryOperator.ofKind? operator.kind with
    | some operation => exact Evaluation.visits_applied operator fun _ => BinaryOperator.fault_code
    | none => exact Evaluation.visits_fail operator (by simp [RuntimeFault.code])
  | hole => exact Evaluation.visits_fail .nowhere (by simp [RuntimeFault.code])
  | _ => exact Evaluation.visits_pure _

namespace Execution

variable {α β : Type} {known middle later : List ByteString} {first second : List Site}

/-- A part of a run that is never cancelled, that starts where some names are known, ends where others
are, and comes to these places in between. The scopes around the innermost bind what they did. -/
def Visits (known later : List ByteString) (sites : List Site) (execution : Execution α) : Prop :=
  ∀ run, run.patience = none → Known known run.environment →
    match execution run with
    | .ok _ after => after.patience = none ∧
        after.environment.outline.tail = run.environment.outline.tail ∧
        Known later after.environment ∧ ∀ site ∈ sites, site.unbound = false
    | .error stop _ => ∃ error, stop = .error error ∧ Blames sites error

theorem visits_pure (value : α) : Visits known known [] (pure value) := by
  intro run unhurried knows
  exact ⟨unhurried, rfl, knows, by simp⟩

theorem visits_bind {execution : Execution α} {next : α → Execution β}
    (start : Visits known middle first execution)
    (finish : ∀ value, Visits middle later second (next value)) :
    Visits known later (first ++ second) (execution >>= next) := by
  intro run unhurried knows
  have ofFirst := start run unhurried knows
  rw [bind_run]
  cases outcome : execution run with
  | error stop between =>
    rw [outcome] at ofFirst
    obtain ⟨error, rfl, blames⟩ := ofFirst
    exact ⟨error, rfl, blames_append second blames⟩
  | ok value between =>
    rw [outcome] at ofFirst
    obtain ⟨stillUnhurried, same, knowsThen, passed⟩ := ofFirst
    have ofSecond := finish value between stillUnhurried knowsThen
    dsimp only
    cases final : next value between with
    | error stop after =>
      rw [final] at ofSecond
      obtain ⟨error, rfl, blames⟩ := ofSecond
      exact ⟨error, rfl, blames_after passed blames⟩
    | ok result after =>
      rw [final] at ofSecond
      obtain ⟨patient, further, knowsLast, passedToo⟩ := ofSecond
      exact ⟨patient, further.trans same, knowsLast, List.forall_mem_append.mpr ⟨passed, passedToo⟩⟩

theorem visits_then {execution : Execution α} {next : α → Execution β} {sites : List Site}
    (start : Visits known middle [] execution)
    (finish : ∀ value, Visits middle later sites (next value)) :
    Visits known later sites (execution >>= next) :=
  visits_bind start finish

theorem visits_finally {execution : Execution α} {next : α → Execution β} {sites : List Site}
    (start : Visits known middle sites execution)
    (finish : ∀ value, Visits middle later [] (next value)) :
    Visits known later sites (execution >>= next) := by
  rw [← List.append_nil sites]
  exact visits_bind start finish

theorem visits_modify {change : Run → Run}
    (keeps : ∀ run, (change run).environment = run.environment)
    (unhurried : ∀ run, run.patience = none → (change run).patience = none) :
    Visits known known [] (modify change : Execution Unit) := by
  intro run patient knows
  refine ⟨unhurried run patient, ?_, ?_, by simp⟩
  · rw [keeps run]
  · rw [keeps run]
    exact knows

theorem visits_record (event : Event) : Visits known known [] (record event) :=
  visits_modify (fun _ => rfl) fun _ patient => patient

theorem visits_checkInterrupt : Visits known known [] (checkInterrupt Run.impatient) := by
  intro run patient knows
  have goes : checkInterrupt Run.impatient run = .ok () run := by
    simp [checkInterrupt, Run.impatient, patient]
  rw [goes]
  exact ⟨patient, rfl, knows, by simp⟩

theorem visits_print (line : Int) (value : Value) : Visits known known [] (print line value) :=
  visits_then (visits_modify (fun _ => rfl) fun run patient => by simp [patient])
    fun _ => visits_record _

theorem visits_define (name : ByteString) (value : Value) :
    Visits known (name :: known) [] (define name value) := by
  intro run patient knows
  exact ⟨patient, rfl, known_define name value knows, by simp⟩

theorem visits_evaluate (expr : Expr) : Visits known known (expr.sites known) (evaluate expr) := by
  intro run patient knows
  have visits := expr.evaluate_visits known run.environment knows
  unfold evaluate
  cases outcome : expr.evaluate run.environment with
  | error error after =>
    rw [outcome] at visits
    exact ⟨error, rfl, visits⟩
  | ok value after =>
    rw [outcome] at visits
    obtain ⟨same, passed⟩ := visits
    exact ⟨patient, congrArg List.tail same, known_of_outline knows same, passed⟩

theorem outline_leave {environment inside : Environment}
    (same : inside.outline.tail = environment.outline) : inside.leave.outline = environment.outline := by
  obtain ⟨inner, outer⟩ := inside
  have around : outer.map Scope.binds = environment.outline := same
  cases outer with
  | nil => simp [Environment.outline, Environment.scopes] at around
  | cons scope rest => exact around

/-- What is declared in a scope is forgotten with it. -/
theorem visits_inScope {inside : Execution α} {sites : List Site}
    (visits : Visits known later sites inside) : Visits known known sites (inScope inside) := by
  intro run patient knows
  have ofInside := visits { run with environment := run.environment.enter } patient (known_enter knows)
  unfold inScope
  cases outcome : inside { run with environment := run.environment.enter } with
  | error stop after =>
    rw [outcome] at ofInside
    exact ofInside
  | ok value after =>
    rw [outcome] at ofInside
    -- What the inside came to know is left behind; the scopes around it bind what they did.
    obtain ⟨stillPatient, around, -, passed⟩ := ofInside
    have left : after.environment.leave.outline = run.environment.outline := outline_leave around
    exact ⟨stillPatient, congrArg List.tail left, known_of_outline knows left, passed⟩

theorem visits_tracked {inside : Execution Value} {sites : List Site} (kind : String) (line : Int)
    (visits : Visits known later sites inside) :
    Visits known later sites (tracked Run.impatient kind line inside) := by
  refine visits_then visits_checkInterrupt fun _ => ?_
  refine visits_then (visits_record _) fun _ => ?_
  refine visits_finally visits fun value => ?_
  refine visits_then (visits_modify (fun _ => rfl) fun _ patient => patient) fun _ => ?_
  exact visits_then (visits_record _) fun _ => visits_pure value

end Execution

namespace Stmt

mutual

theorem execute_visits (known : List ByteString) (echo : Bool) (stmt : Stmt) :
    Execution.Visits known (stmt.extend known) (stmt.sites known) (stmt.execute Run.impatient echo) := by
  cases stmt with
  | letIn name initializer =>
    rw [execute]
    refine Execution.visits_finally (Execution.visits_evaluate initializer) fun value => ?_
    exact Execution.visits_then (Execution.visits_define _ value) fun _ => Execution.visits_pure value
  | print keyword expr =>
    rw [execute]
    refine Execution.visits_finally (Execution.visits_evaluate expr) fun value => ?_
    exact Execution.visits_then (Execution.visits_print _ value) fun _ => Execution.visits_pure value
  | expression expr =>
    rw [execute]
    refine Execution.visits_finally (Execution.visits_evaluate expr) fun value => ?_
    cases echo with
    | true =>
      exact Execution.visits_then (Execution.visits_print _ value) fun _ => Execution.visits_pure value
    | false => exact Execution.visits_pure value
  | block brace body =>
    rw [execute]
    exact Execution.visits_inScope (executeAll_visits known echo .nil body)
  | hole =>
    rw [execute]
    intro run _ _
    exact ⟨_, rfl, blames_single ⟨rfl, by simp [Site.missing], by simp [RuntimeFault.code]⟩⟩

theorem executeAll_visits (known : List ByteString) (echo : Bool) (last : Value)
    (statements : List Stmt) :
    Execution.Visits known (statements.foldl extend known) (allSites known statements)
      (executeAll Run.impatient echo last statements) := by
  cases statements with
  | nil =>
    rw [executeAll]
    exact Execution.visits_pure last
  | cons stmt rest =>
    rw [executeAll]
    exact Execution.visits_bind (Execution.visits_tracked _ _ (execute_visits known echo stmt))
      fun value => executeAll_visits (stmt.extend known) echo value rest

end

end Stmt

theorem execute_result (statements : List Stmt) (scope : Scope) (echo : Bool) :
    match (execute statements (.global scope) echo none).result with
    | .ok _ => ∀ site ∈ Stmt.allSites scope.names statements, site.unbound = false
    | .error stop =>
        ∃ error, stop = .error error ∧ Blames (Stmt.allSites scope.names statements) error := by
  have visits := Stmt.executeAll_visits scope.names echo .nil statements
    ⟨.global scope, [], [.runStart statements.length], 0, none⟩ rfl (known_global scope)
  unfold execute executeUntil
  cases outcome : Stmt.executeAll Run.impatient echo .nil statements
      ⟨.global scope, [], [.runStart statements.length], 0, none⟩ with
  | ok value after =>
    rw [outcome] at visits
    exact visits.2.2.2
  | error stop after =>
    rw [outcome] at visits
    exact visits

def RaisedFirst (sites : List Site) (error : RuntimeError) : Prop :=
  ∃ before site after, sites = before ++ site :: after ∧ error.token = site.token ∧
    ∀ reached ∈ before ++ [site], reached.unbound = false

theorem blames_unbound {sites : List Site} {error : RuntimeError} {name : Token} {more : List Token}
    (unbound : unboundNames sites = name :: more) (blames : Blames sites error) :
    error = .undefined name ∨ error.fault.code ≠ "E_UNDEFINED" ∧ RaisedFirst sites error := by
  obtain ⟨before, site, after, rfl, bound, token, ofUnbound, ofBound⟩ := blames
  -- The first place that is unbound is the first that the check reports.
  cases kind : site.unbound with
  | true =>
    left
    have split : unboundNames (before ++ site :: after) = site.token :: unboundNames after := by
      rw [unboundNames_append, unboundNames_eq_nil.mpr bound]
      simp [unboundNames, kind]
    obtain ⟨rfl, -⟩ := List.cons.inj (split.symm.trans unbound)
    exact ofUnbound kind
  | false =>
    right
    refine ⟨ofBound kind, before, site, after, rfl, token, ?_⟩
    exact List.forall_mem_append.mpr ⟨bound, by simpa using kind⟩

/-- A run that fails at a name says of it what the check says. -/
theorem undefined_diagnostic (name : Token) :
    (RuntimeError.undefined name).diagnostic = undefinedName name := by
  simp only [RuntimeError.diagnostic, RuntimeError.undefined, RuntimeFault.code, RuntimeFault.message,
    undefinedName]

theorem blames_bound {sites : List Site} {error : RuntimeError}
    (bound : unboundNames sites = []) (blames : Blames sites error) :
    error.fault.code ≠ "E_UNDEFINED" := by
  obtain ⟨before, site, after, rfl, -, -, -, ofBound⟩ := blames
  exact ofBound (unboundNames_eq_nil.mp bound site (by simp))

/-- The check of names foretells the run. Where it reports nothing, the run does not fail for want of a
name; where it reports something, the run fails, and unless something else fails before, it fails with
the first report. -/
theorem name_check_predicts_run (statements : List Stmt) (scope : Scope) (echo : Bool) :
    match checkNames statements scope.names with
    | [] => ∀ error, (execute statements (.global scope) echo none).result = .error (.error error) →
        error.fault.code ≠ "E_UNDEFINED"
    | first :: _ => ∃ error,
        (execute statements (.global scope) echo none).result = .error (.error error) ∧
          (error.fault.code = "E_UNDEFINED" ∧ error.diagnostic = first ∨
            error.fault.code ≠ "E_UNDEFINED" ∧
              RaisedFirst (Stmt.allSites scope.names statements) error) := by
  have result := execute_result statements scope echo
  rw [checkNames, Stmt.allUnknownNames_eq]
  cases unbound : unboundNames (Stmt.allSites scope.names statements) with
  | nil =>
    intro error failed
    rw [failed] at result
    obtain ⟨_, same, blames⟩ := result
    cases same
    exact blames_bound unbound blames
  | cons name more =>
    cases outcome : (execute statements (.global scope) echo none).result with
    | ok value =>
      rw [outcome] at result
      exact absurd (unboundNames_eq_nil.mpr result) (by simp [unbound])
    | error stop =>
      rw [outcome] at result
      obtain ⟨error, rfl, blames⟩ := result
      refine ⟨error, rfl, ?_⟩
      rcases blames_unbound unbound blames with rfl | other
      · exact .inl ⟨rfl, undefined_diagnostic name⟩
      · exact .inr other

end Scriptlet
