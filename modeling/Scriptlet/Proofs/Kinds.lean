import Scriptlet.Execution
import Scriptlet.Proofs.Scopes
import Scriptlet.Proofs.Sequencing

/-! Runs by the kinds of their values. Which operators apply, what a result is, and how an error is put into
words depend on the kinds of the operands alone; only a division by zero depends on a value. So two runs of
the same statements, from environments that bind the same names to values of the same kinds, go the same way
until one of them divides by zero. -/
namespace Scriptlet

/-! Operators on kinds. -/

namespace Arithmetic

def onKinds (operation : Arithmetic) (left right : Kind) : Except RuntimeFault Kind :=
  match left, right with
  | .integer, .integer => .ok .integer
  | .float, .float => .ok .float
  | .string, .string =>
    if operation = add then .ok .string else .error (.operands operation.name left right)
  | _, _ => .error (.operands operation.name left right)

theorem apply_kind (operation : Arithmetic) (left right : Value) :
    operation.apply left right = .error .divisionByZero ∨
      (operation.apply left right).map Value.kind = operation.onKinds left.kind right.kind := by
  cases left with
  | integer a =>
    cases right with
    | integer b =>
      by_cases zero : operation = divide ∧ b = 0
      · exact .inl (by simp only [apply, if_pos zero])
      · exact .inr (by simp only [apply, if_neg zero]; rfl)
    | _ => exact .inr rfl
  | float a =>
    cases right with
    | float b =>
      by_cases zero : operation = divide ∧ (b == 0) = true
      · exact .inl (by simp only [apply, if_pos zero])
      · exact .inr (by simp only [apply, if_neg zero]; rfl)
    | _ => exact .inr rfl
  | string a =>
    cases right with
    | string b =>
      right
      by_cases joins : operation = add
      · simp only [apply, onKinds, Value.kind, if_pos joins]
        rfl
      · simp only [apply, onKinds, Value.kind, if_neg joins]
        rfl
    | _ => exact .inr rfl
  | _ =>
    right
    cases right <;> rfl

end Arithmetic

namespace Comparison

def onKinds (comparison : Comparison) (left right : Kind) : Except RuntimeFault Kind :=
  if left = right ∧ (left = .integer ∨ left = .float) then .ok .boolean
  else .error (.operands comparison.name left right)

theorem apply_kind (comparison : Comparison) (left right : Value) :
    (comparison.apply left right).map Value.kind = comparison.onKinds left.kind right.kind := by
  cases left <;> cases right <;> rfl

end Comparison

namespace BinaryOperator

/-- Equality is there for two operands of one kind, which may not be nil. -/
def onKinds (operator : BinaryOperator) (left right : Kind) : Except RuntimeFault Kind :=
  match operator with
  | arithmetic operation => operation.onKinds left right
  | comparison operation => operation.onKinds left right
  | equal => if left = right ∧ left ≠ .nil then .ok .boolean else .error .equality
  | unequal => if left = right ∧ left ≠ .nil then .ok .boolean else .error .inequality

theorem apply_kind (operator : BinaryOperator) (left right : Value) :
    operator.apply left right = .error .divisionByZero ∨
      (operator.apply left right).map Value.kind = operator.onKinds left.kind right.kind := by
  cases operator with
  | arithmetic operation => exact operation.apply_kind left right
  | comparison operation => exact .inr (operation.apply_kind left right)
  | equal =>
    right
    cases left <;> cases right <;> rfl
  | unequal =>
    right
    cases left <;> cases right <;> rfl

end BinaryOperator

namespace UnaryOperator

def onKinds (operator : UnaryOperator) (operand : Kind) : Except RuntimeFault Kind :=
  match operator with
  | not => .ok .boolean
  | negate => if operand = .integer ∨ operand = .float then .ok operand else .error .negation

theorem apply_kind (operator : UnaryOperator) (operand : Value) :
    (operator.apply operand).map Value.kind = operator.onKinds operand.kind := by
  cases operator <;> cases operand <;> rfl

end UnaryOperator

/-! What scopes bind, by kinds. -/

abbrev Kinds := ByteString → Option Kind

def Scope.kinds (scope : Scope) : Kinds :=
  fun name => (scope.get? name).map Value.kind

theorem Scope.kinds_set (scope : Scope) (name : ByteString) (value : Value) :
    (scope.set name value).kinds =
      fun sought => if sought = name then some value.kind else scope.kinds sought := by
  funext sought
  unfold kinds
  rw [get?_set]
  by_cases same : sought = name
  · simp [same]
  · simp [same]

theorem Scope.binds_eq_kinds (scope : Scope) (name : ByteString) :
    scope.binds name = (scope.kinds name).isSome := by
  simp [binds, kinds]

namespace Environment

/-- What each scope of an environment binds, the innermost first, by kinds. -/
def kinds (environment : Environment) : List Kinds :=
  environment.scopes.map Scope.kinds

theorem lookup?_kind (environment : Environment) (name : ByteString) :
    (environment.lookup? name).map Value.kind = environment.kinds.findSome? (· name) := by
  unfold lookup? kinds
  induction environment.scopes with
  | nil => rfl
  | cons scope rest ih =>
    rw [List.map_cons, List.findSome?_cons, List.findSome?_cons, ← ih, Scope.kinds]
    cases scope.get? name <;> rfl

def rebound (name : ByteString) (kind : Kind) : List Kinds → Option (List Kinds)
  | [] => none
  | scope :: rest =>
    if (scope name).isSome then
      some ((fun sought => if sought = name then some kind else scope sought) :: rest)
    else (rebound name kind rest).map (scope :: ·)

theorem assignIn_kinds (name : ByteString) (value : Value) (scopes : List Scope) :
    (assignIn name value scopes).map (List.map Scope.kinds) =
      rebound name value.kind (scopes.map Scope.kinds) := by
  induction scopes with
  | nil => rfl
  | cons scope rest ih =>
    rw [assignIn, List.map_cons, rebound, ← ih, Scope.binds_eq_kinds]
    by_cases bound : (scope.kinds name).isSome = true
    · simp [bound, Scope.kinds_set]
    · simp [bound, Function.comp_def]

theorem assign?_kinds (environment : Environment) (name : ByteString) (value : Value) :
    (environment.assign? name value).map kinds = rebound name value.kind environment.kinds := by
  have inScopes := congrArg (Option.map (List.map Scope.kinds)) (assign?_eq environment name value)
  rw [Option.map_map, assignIn_kinds] at inScopes
  exact inScopes

section Alike

variable {environment other : Environment} (alike : environment.kinds = other.kinds)

include alike

theorem kinds_define {value second : Value} (same : value.kind = second.kind) (name : ByteString) :
    (environment.define name value).kinds = (other.define name second).kinds := by
  obtain ⟨inner, outer⟩ := List.cons.inj alike
  show (environment.inner.set name value).kinds :: environment.outer.map Scope.kinds =
    (other.inner.set name second).kinds :: other.outer.map Scope.kinds
  rw [Scope.kinds_set, Scope.kinds_set, inner, outer, same]

theorem kinds_enter : environment.enter.kinds = other.enter.kinds :=
  congrArg (Scope.empty.kinds :: ·) alike

theorem kinds_leave : environment.leave.kinds = other.leave.kinds := by
  have around : environment.outer.map Scope.kinds = other.outer.map Scope.kinds := (List.cons.inj alike).2
  unfold leave
  cases outside : environment.outer with
  | nil =>
    rw [outside] at around
    rw [List.map_eq_nil_iff.mp around.symm]
    exact alike
  | cons scope rest =>
    cases outsideToo : other.outer with
    | nil =>
      rw [outside, outsideToo] at around
      cases around
    | cons scopeToo restToo =>
      rw [outside, outsideToo] at around
      exact around

end Alike

end Environment

/-! Two computations side by side, one of which may drop out. -/

section Parallel

variable {ε σ α β : Type} {shared excused : ε → Prop} {states : σ → σ → Prop} {values : α → α → Prop}
  {results : β → β → Prop}

/-- Two outcomes that correspond: values and states that do, or an error that the two share. Nothing is asked
of the one where the other failed with an excuse. -/
inductive Parallel (shared excused : ε → Prop) (states : σ → σ → Prop) (values : α → α → Prop) :
    EStateM.Result ε σ α → EStateM.Result ε σ α → Prop
  | ok {value second : α} {after other : σ} (same : values value second) (related : states after other) :
      Parallel shared excused states values (.ok value after) (.ok second other)
  | error {error : ε} {after other : σ} (isShared : shared error) (related : states after other) :
      Parallel shared excused states values (.error error after) (.error error other)
  | dropsOut {error : ε} {after : σ} {outcome : EStateM.Result ε σ α} (excuse : excused error) :
      Parallel shared excused states values (.error error after) outcome
  | otherDropsOut {error : ε} {other : σ} {outcome : EStateM.Result ε σ α} (excuse : excused error) :
      Parallel shared excused states values outcome (.error error other)

/-- From corresponding states the two come to corresponding outcomes. -/
def Parallels (shared excused : ε → Prop) (states : σ → σ → Prop) (values : α → α → Prop)
    (first second : EStateM ε σ α) : Prop :=
  ∀ start other, states start other → Parallel shared excused states values (first start) (second other)

theorem parallels_pure {value second : α} (same : values value second) :
    Parallels shared excused states values (pure value) (pure second) :=
  fun _ _ related => .ok same related

theorem parallels_throw {error : ε} (isShared : shared error) :
    Parallels shared excused states values (throw error) (throw error) :=
  fun _ _ related => .error isShared related

theorem parallels_modify {change changeToo : σ → σ}
    (keeps : ∀ start other, states start other → states (change start) (changeToo other)) :
    Parallels shared excused states Eq (modify change : EStateM ε σ PUnit) (modify changeToo) :=
  fun start other related => .ok rfl (keeps start other related)

theorem parallels_bind {first second : EStateM ε σ α} {next nextToo : α → EStateM ε σ β}
    (leads : Parallels shared excused states values first second)
    (further : ∀ value other, values value other →
      Parallels shared excused states results (next value) (nextToo other)) :
    Parallels shared excused states results (first >>= next) (second >>= nextToo) := by
  intro start other related
  have parallel := leads start other related
  rw [bind_run, bind_run]
  generalize first start = outcome at parallel
  generalize second other = outcomeToo at parallel
  cases parallel with
  | ok same after => exact further _ _ same _ _ after
  | error isShared after => exact .error isShared after
  | dropsOut excuse => exact .dropsOut excuse
  | otherDropsOut excuse => exact .otherDropsOut excuse

end Parallel

/-! Evaluation by kinds. -/

abbrev Value.SameKind (value other : Value) : Prop := value.kind = other.kind

namespace Evaluation

abbrev Parallels {α : Type} (values : α → α → Prop) (first second : Evaluation α) : Prop :=
  Scriptlet.Parallels (fun _ => True) (fun error => error.fault = .divisionByZero)
    (fun environment other => environment.kinds = other.kinds) values first second

theorem parallels_applied (operator : Token) {result other : Except RuntimeFault Value}
    {kind : Except RuntimeFault Kind}
    (settles : result = .error .divisionByZero ∨ result.map Value.kind = kind)
    (settlesToo : other = .error .divisionByZero ∨ other.map Value.kind = kind) :
    Parallels Value.SameKind (applied operator result) (applied operator other) := by
  intro environment second alike
  rcases settles with rfl | settles
  · exact .dropsOut rfl
  · rcases settlesToo with rfl | settlesToo
    · exact .otherDropsOut rfl
    · have same := settles.trans settlesToo.symm
      cases result with
      | ok value =>
        cases other with
        | ok valueToo => exact .ok (Except.ok.inj same) alike
        | error fault => cases same
      | error fault =>
        cases other with
        | ok valueToo => cases same
        | error faultToo =>
          cases Except.error.inj same
          exact .error trivial alike

theorem parallels_get (name : Token) : Parallels Value.SameKind (get name) (get name) := by
  intro environment other alike
  have same : (environment.lookup? name.lexeme).map Value.kind =
      (other.lookup? name.lexeme).map Value.kind := by
    rw [Environment.lookup?_kind, Environment.lookup?_kind, alike]
  unfold get
  cases found : environment.lookup? name.lexeme with
  | none =>
    rw [found] at same
    rw [Option.map_eq_none_iff.mp same.symm]
    exact .error trivial alike
  | some value =>
    cases foundToo : other.lookup? name.lexeme with
    | none =>
      rw [found, foundToo] at same
      cases same
    | some valueToo =>
      rw [found, foundToo] at same
      exact .ok (Option.some.inj same) alike

theorem parallels_assign (name : Token) {value second : Value} (same : value.kind = second.kind) :
    Parallels Eq (assign name value) (assign name second) := by
  intro environment other alike
  have changes : (environment.assign? name.lexeme value).map Environment.kinds =
      (other.assign? name.lexeme second).map Environment.kinds := by
    rw [Environment.assign?_kinds, Environment.assign?_kinds, alike, same]
  unfold assign
  cases assigned : environment.assign? name.lexeme value with
  | none =>
    rw [assigned] at changes
    rw [Option.map_eq_none_iff.mp changes.symm]
    exact .error trivial alike
  | some changed =>
    cases assignedToo : other.assign? name.lexeme second with
    | none =>
      rw [assigned, assignedToo] at changes
      cases changes
    | some changedToo =>
      rw [assigned, assignedToo] at changes
      exact .ok rfl (Option.some.inj changes)

end Evaluation

theorem Expr.evaluate_parallels (expr : Expr) :
    Evaluation.Parallels Value.SameKind expr.evaluate expr.evaluate := by
  induction expr with
  | integer | float | string | boolean | nil => exact parallels_pure rfl
  | reference name => exact Evaluation.parallels_get name
  | assign name _ ih =>
    apply parallels_bind ih
    intro value other same
    apply parallels_bind (Evaluation.parallels_assign name same)
    intro _ _ _
    exact parallels_pure same
  | grouping _ _ ih => exact ih
  | unary operator _ ih =>
    apply parallels_bind ih
    intro value other same
    cases UnaryOperator.ofKind? operator.kind with
    | some operation =>
      apply Evaluation.parallels_applied operator (.inr (operation.apply_kind value))
      rw [same]
      exact .inr (operation.apply_kind other)
    | none => exact parallels_throw trivial
  | binary _ operator _ onLeft onRight =>
    apply parallels_bind onLeft
    intro left leftToo sameLeft
    apply parallels_bind onRight
    intro right rightToo sameRight
    cases BinaryOperator.ofKind? operator.kind with
    | some operation =>
      apply Evaluation.parallels_applied operator (operation.apply_kind left right)
      rw [sameLeft, sameRight]
      exact operation.apply_kind leftToo rightToo
    | none => exact parallels_throw trivial
  | hole => exact parallels_throw trivial

/-! Runs by kinds. -/

structure Run.SameKinds (run other : Run) : Prop where
  environment : run.environment.kinds = other.environment.kinds
  written : run.written.length = other.written.length
  completed : run.completed = other.completed
  patient : run.patience = none
  patientToo : other.patience = none

namespace Stop

def Fails (stop : Stop) : Prop :=
  ∃ error, stop = .error error

def Divides (stop : Stop) : Prop :=
  ∃ error : RuntimeError, stop = .error error ∧ error.fault = .divisionByZero

end Stop

namespace Execution

abbrev Parallels {α : Type} (values : α → α → Prop) (first second : Execution α) : Prop :=
  Scriptlet.Parallels Stop.Fails Stop.Divides Run.SameKinds values first second

theorem parallels_record (event eventToo : Event) : Parallels Eq (record event) (record eventToo) := by
  apply parallels_modify
  intro run other same
  exact ⟨same.environment, same.written, same.completed, same.patient, same.patientToo⟩

theorem parallels_checkInterrupt :
    Parallels Eq (checkInterrupt Run.impatient) (checkInterrupt Run.impatient) := by
  intro run other same
  simp only [checkInterrupt, Run.impatient, same.patient, same.patientToo]
  exact .ok rfl same

theorem parallels_evaluate (expr : Expr) :
    Parallels Value.SameKind (evaluate expr) (evaluate expr) := by
  intro run other same
  have parallel := expr.evaluate_parallels _ _ same.environment
  unfold evaluate
  generalize expr.evaluate run.environment = outcome at parallel
  generalize expr.evaluate other.environment = outcomeToo at parallel
  cases parallel with
  | ok sameKind alike =>
    exact .ok sameKind ⟨alike, same.written, same.completed, same.patient, same.patientToo⟩
  | error _ alike =>
    exact .error ⟨_, rfl⟩ ⟨alike, same.written, same.completed, same.patient, same.patientToo⟩
  | dropsOut excuse => exact .dropsOut ⟨_, rfl, excuse⟩
  | otherDropsOut excuse => exact .otherDropsOut ⟨_, rfl, excuse⟩

theorem parallels_define (name : ByteString) {value second : Value} (sameKind : value.kind = second.kind) :
    Parallels Eq (define name value) (define name second) := by
  apply parallels_modify
  intro run other same
  exact ⟨Environment.kinds_define same.environment sameKind name, same.written, same.completed, same.patient,
    same.patientToo⟩

theorem parallels_print (line : Int) (value second : Value) :
    Parallels Eq (print line value) (print line second) := by
  apply parallels_bind
  · apply parallels_modify
    intro run other same
    constructor
    · exact same.environment
    · simp [same.written]
    · exact same.completed
    · simp [same.patient]
    · simp [same.patientToo]
  · intro _ _ _
    exact parallels_record _ _

theorem parallels_inScope {first second : Execution Value} (inside : Parallels Value.SameKind first second) :
    Parallels Value.SameKind (inScope first) (inScope second) := by
  intro run other same
  have parallel := inside { run with environment := run.environment.enter }
    { other with environment := other.environment.enter }
    ⟨Environment.kinds_enter same.environment, same.written, same.completed, same.patient, same.patientToo⟩
  unfold inScope
  generalize first { run with environment := run.environment.enter } = outcome at parallel
  generalize second { other with environment := other.environment.enter } = outcomeToo at parallel
  have left {after afterToo : Run} (still : after.SameKinds afterToo) :
      Run.SameKinds { after with environment := after.environment.leave }
        { afterToo with environment := afterToo.environment.leave } :=
    ⟨Environment.kinds_leave still.environment, still.written, still.completed, still.patient,
      still.patientToo⟩
  cases parallel with
  | ok sameKind still => exact .ok sameKind (left still)
  | error fails still => exact .error fails (left still)
  | dropsOut excuse => exact .dropsOut excuse
  | otherDropsOut excuse => exact .otherDropsOut excuse

theorem parallels_count :
    Parallels Eq (modify fun run : Run => { run with completed := run.completed + 1 })
      (modify fun run : Run => { run with completed := run.completed + 1 }) := by
  apply parallels_modify
  intro run other same
  exact ⟨same.environment, same.written, congrArg (· + 1) same.completed, same.patient, same.patientToo⟩

theorem parallels_tracked (kind : String) (line : Int) {first second : Execution Value}
    (inside : Parallels Value.SameKind first second) :
    Parallels Value.SameKind (tracked Run.impatient kind line first)
      (tracked Run.impatient kind line second) := by
  apply parallels_bind parallels_checkInterrupt
  intro _ _ _
  apply parallels_bind (parallels_record _ _)
  intro _ _ _
  apply parallels_bind inside
  intro value other sameKind
  apply parallels_bind parallels_count
  intro _ _ _
  apply parallels_bind (parallels_record _ _)
  intro _ _ _
  exact parallels_pure sameKind

end Execution

namespace Stmt

mutual

theorem execute_parallels (echo : Bool) (stmt : Stmt) :
    Execution.Parallels Value.SameKind (stmt.execute Run.impatient echo) (stmt.execute Run.impatient echo) := by
  cases stmt with
  | letIn name initializer =>
    rw [execute]
    apply parallels_bind (Execution.parallels_evaluate initializer)
    intro value other sameKind
    apply parallels_bind (Execution.parallels_define name.lexeme sameKind)
    intro _ _ _
    exact parallels_pure sameKind
  | print keyword expr =>
    rw [execute]
    apply parallels_bind (Execution.parallels_evaluate expr)
    intro value other sameKind
    apply parallels_bind (Execution.parallels_print _ value other)
    intro _ _ _
    exact parallels_pure sameKind
  | expression expr =>
    rw [execute]
    apply parallels_bind (Execution.parallels_evaluate expr)
    intro value other sameKind
    cases echo with
    | true =>
      apply parallels_bind (Execution.parallels_print _ value other)
      intro _ _ _
      exact parallels_pure sameKind
    | false => exact parallels_pure sameKind
  | block brace body =>
    rw [execute]
    exact Execution.parallels_inScope (executeAll_parallels echo rfl body)
  | hole =>
    rw [execute]
    exact parallels_throw ⟨_, rfl⟩

theorem executeAll_parallels (echo : Bool) {last other : Value} (sameKind : last.kind = other.kind)
    (statements : List Stmt) :
    Execution.Parallels Value.SameKind (executeAll Run.impatient echo last statements)
      (executeAll Run.impatient echo other statements) := by
  cases statements with
  | nil =>
    rw [executeAll, executeAll]
    exact parallels_pure sameKind
  | cons stmt rest =>
    rw [executeAll, executeAll]
    apply parallels_bind (Execution.parallels_tracked _ _ (execute_parallels echo stmt))
    intro value valueToo sameToo
    exact executeAll_parallels echo sameToo rest

end

end Stmt

theorem executeAll_parallel (statements : List Stmt) {environment second : Environment} (echo : Bool)
    (alike : environment.kinds = second.kinds) :
    Parallel Stop.Fails Stop.Divides Run.SameKinds Value.SameKind
      (Stmt.executeAll Run.impatient echo .nil statements
        ⟨environment, [], [.runStart statements.length], 0, none⟩)
      (Stmt.executeAll Run.impatient echo .nil statements
        ⟨second, [], [.runStart statements.length], 0, none⟩) :=
  Stmt.executeAll_parallels echo rfl statements _ _ ⟨alike, rfl, rfl, rfl, rfl⟩

def RunReport.Divides (report : RunReport) : Prop :=
  ∃ error, report.result = .error (.error error) ∧ error.fault.code = "E_DIV_ZERO"

/-- Type errors do not depend on data: from environments that bind the same names to values of the same kinds,
scope by scope, two runs of the same statements either both succeed, with the same kinds of values, or both
fail with the same error at the same point, unless one of them divides by zero. -/
theorem kinds_decide_errors (statements : List Stmt) (environment second : Environment) (echo : Bool)
    (alike : environment.kinds = second.kinds)
    (whole : ¬ (execute statements environment echo none).Divides)
    (wholeToo : ¬ (execute statements second echo none).Divides) :
    let report := execute statements environment echo none
    let other := execute statements second echo none
    (∃ value valueToo, report.result = .ok value ∧ other.result = .ok valueToo ∧
      value.kind = valueToo.kind ∧ report.written.length = other.written.length ∧
      report.environment.kinds = other.environment.kinds) ∨
    ∃ error, report.result = .error (.error error) ∧ other.result = .error (.error error) ∧
      report.completed = other.completed := by
  have parallel := executeAll_parallel statements echo alike
  unfold execute executeUntil at whole wholeToo ⊢
  generalize Stmt.executeAll Run.impatient echo .nil statements ⟨environment, _, _, _, _⟩ = outcome
    at parallel whole ⊢
  generalize Stmt.executeAll Run.impatient echo .nil statements ⟨second, _, _, _, _⟩ = outcomeToo
    at parallel wholeToo ⊢
  cases parallel with
  | ok sameKind still => exact .inl ⟨_, _, rfl, rfl, sameKind, still.written, still.environment⟩
  | error fails still =>
    obtain ⟨error, rfl⟩ := fails
    exact .inr ⟨error, rfl, rfl, still.completed⟩
  | dropsOut excuse =>
    obtain ⟨error, rfl, divides⟩ := excuse
    exact absurd ⟨error, rfl, by rw [divides]; rfl⟩ whole
  | otherDropsOut excuse =>
    obtain ⟨error, rfl, divides⟩ := excuse
    exact absurd ⟨error, rfl, by rw [divides]; rfl⟩ wholeToo

/-- A sum, an assignment in a block and a difference of a truth value and a number: two runs over two scopes,
with other numbers and another truth value, fail with the same error after the same three statements. -/
theorem kinds_decide_errors_mixed :
    let x : Token := ⟨.identifier, "x", "", 1⟩
    let y : Token := ⟨.identifier, "y", "", 1⟩
    let sum : Expr := .binary (.reference x) ⟨.plus, "+", "", 1⟩ (.reference x)
    let less : Expr := .binary (.reference x) ⟨.less, "<", "", 1⟩ (.reference x)
    let minus : Token := ⟨.minus, "-", "", 1⟩
    let statements : List Stmt := [.letIn x sum, .block ⟨.leftBrace, "", "", 1⟩ [.expression (.assign y less)],
      .print ⟨.printWord, "print", "", 1⟩ (.binary (.reference y) minus (.reference x))]
    let environment : Environment := ⟨.ofList [("x", .integer 1)], [.ofList [("y", .boolean true)]]⟩
    let second : Environment := ⟨.ofList [("x", .integer 7)], [.ofList [("y", .boolean false)]]⟩
    let report := execute statements environment false none
    let other := execute statements second false none
    environment.kinds = second.kinds ∧ ¬ report.Divides ∧ ¬ other.Divides ∧
      ∃ error, report.result = .error (.error error) ∧ other.result = .error (.error error) ∧
        error.fault.message = "Invalid operands for subtraction: Boolean and Integer." ∧
        report.completed = other.completed ∧ other.completed = 3 := by
  intro x y sum less minus statements environment second report other
  have single (name : ByteString) {value valueToo : Value} (same : value.kind = valueToo.kind) :
      Scope.kinds (.ofList [(name, value)]) = Scope.kinds (.ofList [(name, valueToo)]) := by
    funext sought
    show (List.lookup sought [(name, value)]).map Value.kind =
      (List.lookup sought [(name, valueToo)]).map Value.kind
    simp only [List.lookup_cons, List.lookup_nil]
    cases sought == name with
    | true => exact congrArg some same
    | false => rfl
  have alike : environment.kinds = second.kinds := by
    simp only [environment, second, Environment.kinds, Environment.scopes, List.map_cons, List.map_nil,
      List.cons.injEq, and_true]
    exact ⟨single "x" rfl, single "y" rfl⟩
  let error : RuntimeError := ⟨.operands "subtraction" .boolean .integer, minus⟩
  have fails : report.result = .error (.error error) := rfl
  have failsToo : other.result = .error (.error error) := rfl
  have whole {found : RunReport} (fails : found.result = .error (.error error)) : ¬ found.Divides := by
    rintro ⟨divided, same, code⟩
    rw [fails] at same
    cases same
    exact absurd code (by decide)
  refine ⟨alike, whole fails, whole failsToo, ?_⟩
  rcases kinds_decide_errors statements environment second false alike (whole fails) (whole failsToo) with
    ⟨value, _, succeeds, -⟩ | ⟨found, failsSame, failsAlso, completed⟩
  · cases fails.symm.trans succeeds
  · cases fails.symm.trans failsSame
    exact ⟨error, fails, failsToo, by decide, completed, rfl⟩

end Scriptlet
