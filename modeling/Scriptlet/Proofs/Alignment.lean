import Scriptlet.Execution
import Scriptlet.Proofs.Respelling
import Scriptlet.Proofs.Sequencing

/-! Programs of the same shape. Two programs are aligned if their trees have the same nodes, the same
values in their literals and matching tokens at their names and operators. Run from the same
environment, they do the same step by step: they write the same lines, leave the same bindings and
complete the same statements, and if one fails, so does the other, with the same fault at a matching
token. -/
namespace Scriptlet

/-- The same nodes and values. The tokens of literals and parentheses are never looked at. -/
inductive Expr.Aligned (matched : Token → Token → Prop) : Expr → Expr → Prop
  | integer {token other : Token} {value : Int64} :
      Aligned matched (.integer token value) (.integer other value)
  | float {token other : Token} {value : Float} :
      Aligned matched (.float token value) (.float other value)
  | string {token other : Token} {value : ByteString} :
      Aligned matched (.string token value) (.string other value)
  | boolean {token other : Token} {value : Bool} :
      Aligned matched (.boolean token value) (.boolean other value)
  | nil {token other : Token} : Aligned matched (.nil token) (.nil other)
  | reference {name other : Token} (pair : matched name other) :
      Aligned matched (.reference name) (.reference other)
  | assign {name other : Token} {value second : Expr} (pair : matched name other)
      (aligned : Aligned matched value second) :
      Aligned matched (.assign name value) (.assign other second)
  | unary {operator other : Token} {operand second : Expr} (pair : matched operator other)
      (aligned : Aligned matched operand second) :
      Aligned matched (.unary operator operand) (.unary other second)
  | binary {operator other : Token} {left right first second : Expr} (pair : matched operator other)
      (onLeft : Aligned matched left first) (onRight : Aligned matched right second) :
      Aligned matched (.binary left operator right) (.binary first other second)
  | grouping {paren other : Token} {inner second : Expr} (aligned : Aligned matched inner second) :
      Aligned matched (.grouping paren inner) (.grouping other second)

inductive Stmt.Aligned (matched : Token → Token → Prop) : List Stmt → List Stmt → Prop
  | nil : Aligned matched [] []
  | expression {value second : Expr} {rest others : List Stmt} (aligned : value.Aligned matched second)
      (further : Aligned matched rest others) :
      Aligned matched (.expression value :: rest) (.expression second :: others)
  | print {keyword other : Token} {value second : Expr} {rest others : List Stmt}
      (aligned : value.Aligned matched second) (further : Aligned matched rest others) :
      Aligned matched (.print keyword value :: rest) (.print other second :: others)
  | letIn {name other : Token} {initializer second : Expr} {rest others : List Stmt}
      (pair : matched name other) (aligned : initializer.Aligned matched second)
      (further : Aligned matched rest others) :
      Aligned matched (.letIn name initializer :: rest) (.letIn other second :: others)
  | block {brace other : Token} {body inner rest others : List Stmt} (inside : Aligned matched body inner)
      (further : Aligned matched rest others) :
      Aligned matched (.block brace body :: rest) (.block other inner :: others)

/-! What is aligned: a program and a respelling of it, and a program and the same program elsewhere. -/

theorem Expr.Respells.aligned {expr second : Expr} (respells : expr.Respells second) :
    expr.Aligned Token.Same second := by
  induction respells with
  | integer | float | quoted | string | boolean | nil => constructor
  | reference same => exact .reference same
  | assign same _ ih => exact .assign same ih
  | unary same _ ih => exact .unary same ih
  | binary same _ _ onLeft onRight => exact .binary same onLeft onRight
  | grouping _ _ ih => exact .grouping ih

theorem Stmt.Respells.aligned {statements second : List Stmt}
    (respells : Stmt.Respells statements second) : Stmt.Aligned Token.Same statements second := by
  induction respells with
  | nil => exact .nil
  | expression inner _ ih => exact .expression inner.aligned ih
  | print _ inner _ ih => exact .print inner.aligned ih
  | letIn same inner _ ih => exact .letIn same inner.aligned ih
  | block _ _ _ inside ih => exact .block inside ih

section Elsewhere

variable {matched : Token → Token → Prop} {move : Token → Token}
  (pairs : ∀ token, matched (move token) token)

include pairs

-- What can be respelled at all has no holes; how it is respelled does not matter here.
theorem Expr.Respells.aligned_elsewhere {expr second : Expr} (respells : expr.Respells second) :
    (expr.mapTokens move).Aligned matched expr := by
  induction respells with
  | integer | float | quoted | string | boolean | nil => constructor
  | reference _ => exact .reference (pairs _)
  | assign _ _ ih => exact .assign (pairs _) ih
  | unary _ _ ih => exact .unary (pairs _) ih
  | binary _ _ _ onLeft onRight => exact .binary (pairs _) onLeft onRight
  | grouping _ _ ih => exact .grouping ih

theorem Stmt.Respells.aligned_elsewhere {statements second : List Stmt}
    (respells : Stmt.Respells statements second) :
    Stmt.Aligned matched (Stmt.mapAllTokens move statements) statements := by
  induction respells with
  | nil => exact .nil
  | expression inner _ ih => exact .expression (inner.aligned_elsewhere pairs) ih
  | print _ inner _ ih => exact .print (inner.aligned_elsewhere pairs) ih
  | letIn _ inner _ ih => exact .letIn (pairs _) (inner.aligned_elsewhere pairs) ih
  | block _ _ _ inside ih => exact .block inside ih

end Elsewhere

/-! Aligned expressions evaluate alike. -/

structure RuntimeError.Matched (matched : Token → Token → Prop) (error other : RuntimeError) : Prop where
  fault : other.fault = error.fault
  token : matched error.token other.token

section Matching

variable {matched : Token → Token → Prop} (same : ∀ {token other}, matched token other → token.Same other)

namespace Evaluation

/-- From the same environment the two come out alike, and leave the same environment. -/
abbrev Matched (matched : Token → Token → Prop) {α : Type} (first second : Evaluation α) : Prop :=
  Follows (RuntimeError.Matched matched) Eq first second

theorem matched_applied {operator other : Token} (pair : matched operator other)
    (result : Except RuntimeFault Value) : Matched matched (applied operator result) (applied other result) := by
  cases result with
  | ok value => exact follows_pure value
  | error fault => exact follows_throw ⟨rfl, pair⟩

include same

theorem matched_get {name other : Token} (pair : matched name other) :
    Matched matched (get name) (get other) := by
  rintro environment _ rfl
  simp only [get, (same pair).lexeme]
  split
  · exact .ok rfl
  · exact .error ⟨by simp [RuntimeError.undefined, (same pair).lexeme], pair⟩ rfl

theorem matched_assign {name other : Token} (pair : matched name other) (value : Value) :
    Matched matched (assign name value) (assign other value) := by
  rintro environment _ rfl
  simp only [assign, (same pair).lexeme]
  split
  · exact .ok rfl
  · exact .error ⟨by simp [RuntimeError.undefined, (same pair).lexeme], pair⟩ rfl

end Evaluation

include same

theorem Expr.Aligned.evaluate {expr second : Expr} (aligned : expr.Aligned matched second) :
    Evaluation.Matched matched expr.evaluate second.evaluate := by
  induction aligned with
  | integer | float | string | boolean | nil => exact follows_pure _
  | reference pair => exact Evaluation.matched_get same pair
  | assign pair _ ih =>
    apply follows_bind ih
    intro value
    exact follows_bind (Evaluation.matched_assign same pair value) fun _ => follows_pure value
  | grouping _ ih => exact ih
  | @unary operator other _ _ pair _ ih =>
    apply follows_bind ih
    intro value
    rw [(same pair).kind]
    cases UnaryOperator.ofKind? operator.kind with
    | some operation => exact Evaluation.matched_applied pair _
    | none => exact follows_throw ⟨rfl, pair⟩
  | @binary operator other _ _ _ _ pair _ _ onLeft onRight =>
    apply follows_bind onLeft
    intro left
    apply follows_bind onRight
    intro right
    rw [(same pair).kind]
    cases BinaryOperator.ofKind? operator.kind with
    | some operation => exact Evaluation.matched_applied pair _
    | none => exact follows_throw ⟨rfl, pair⟩

omit same

/-! Aligned statements run alike. -/

inductive Stop.Matched (matched : Token → Token → Prop) : Stop → Stop → Prop
  | error {error other : RuntimeError} (same : error.Matched matched other) :
      Stop.Matched matched (.error error) (.error other)

/-- Two runs at the same point, neither of which will be cancelled. The first wrote some lines and
completed some statements before the other started. -/
structure Run.Abreast (lines : List ByteString) (count : Nat) (run other : Run) : Prop where
  environment : run.environment = other.environment
  patient : run.patience = none
  patientToo : other.patience = none
  written : run.written = lines ++ other.written
  completed : run.completed = count + other.completed

namespace Execution

variable {lines : List ByteString} {count : Nat}

abbrev Matched (matched : Token → Token → Prop) (lines : List ByteString) (count : Nat) {α : Type}
    (first second : Execution α) : Prop :=
  Follows (Stop.Matched matched) (Run.Abreast lines count) first second

theorem matched_record (event eventToo : Event) :
    Matched matched lines count (record event) (record eventToo) := by
  apply follows_modify
  intro run other abreast
  exact ⟨abreast.environment, abreast.patient, abreast.patientToo, abreast.written, abreast.completed⟩

theorem matched_checkInterrupt : Matched matched lines count (checkInterrupt Run.impatient)
    (checkInterrupt Run.impatient) := by
  intro run other abreast
  simp only [checkInterrupt, Run.impatient, abreast.patient, abreast.patientToo]
  exact .ok abreast

theorem matched_print (line lineToo : Int) (value : Value) :
    Matched matched lines count (print line value) (print lineToo value) := by
  apply follows_bind
  · apply follows_modify
    intro run other abreast
    refine ⟨abreast.environment, ?_, ?_, ?_, abreast.completed⟩
    · simp [abreast.patient]
    · simp [abreast.patientToo]
    · simp [abreast.written]
  · intro _
    exact matched_record _ _

theorem matched_define {name other : ByteString} (same : other = name) (value : Value) :
    Matched matched lines count (define name value) (define other value) := by
  subst same
  apply follows_modify
  intro run other abreast
  refine ⟨?_, abreast.patient, abreast.patientToo, abreast.written, abreast.completed⟩
  rw [abreast.environment]

theorem matched_inScope {α : Type} {first second : Execution α}
    (inside : Matched matched lines count first second) :
    Matched matched lines count (inScope first) (inScope second) := by
  have placed {environment other : Environment} {run follower : Run} (alike : environment = other)
      (abreast : Run.Abreast lines count run follower) :
      Run.Abreast lines count { run with environment } { follower with environment := other } :=
    ⟨alike, abreast.patient, abreast.patientToo, abreast.written, abreast.completed⟩
  intro run other abreast
  have entered := placed (congrArg Environment.enter abreast.environment) abreast
  have alike := inside _ _ entered
  unfold inScope
  generalize first { run with environment := run.environment.enter } = outcome at alike
  generalize second { other with environment := other.environment.enter } = outcomeToo at alike
  cases alike with
  | ok still => exact .ok (placed (congrArg Environment.leave still.environment) still)
  | error fails still => exact .error fails (placed (congrArg Environment.leave still.environment) still)

theorem matched_tracked {first second : Execution Value} (kind kindToo : String) (line lineToo : Int)
    (inside : Matched matched lines count first second) :
    Matched matched lines count (tracked Run.impatient kind line first)
      (tracked Run.impatient kindToo lineToo second) := by
  apply follows_bind matched_checkInterrupt
  intro _
  apply follows_bind (matched_record _ _)
  intro _
  apply follows_bind inside
  intro value
  apply follows_bind
  · apply follows_modify
    intro run other abreast
    refine ⟨abreast.environment, abreast.patient, abreast.patientToo, abreast.written, ?_⟩
    simp [abreast.completed, Nat.add_assoc]
  · intro _
    exact follows_bind (matched_record _ _) fun _ => follows_pure value

theorem matched_cons {stmt other : Stmt} {rest others : List Stmt} {echo : Bool}
    (head : Matched matched lines count (stmt.execute Run.impatient echo) (other.execute Run.impatient echo))
    (tail : ∀ value, Matched matched lines count (Stmt.executeAll Run.impatient echo value rest)
      (Stmt.executeAll Run.impatient echo value others)) (last : Value) :
    Matched matched lines count (Stmt.executeAll Run.impatient echo last (stmt :: rest))
      (Stmt.executeAll Run.impatient echo last (other :: others)) := by
  rw [Stmt.executeAll, Stmt.executeAll]
  exact follows_bind (matched_tracked _ _ _ _ head) tail

include same

theorem matched_evaluate {expr second : Expr} (aligned : expr.Aligned matched second) :
    Matched matched lines count (evaluate expr) (evaluate second) := by
  intro run other abreast
  have alike := aligned.evaluate same _ _ abreast.environment
  unfold evaluate
  generalize expr.evaluate run.environment = outcome at alike
  generalize second.evaluate other.environment = outcomeToo at alike
  cases alike with
  | ok still => exact .ok ⟨still, abreast.patient, abreast.patientToo, abreast.written, abreast.completed⟩
  | error fails still =>
    exact .error (.error fails)
      ⟨still, abreast.patient, abreast.patientToo, abreast.written, abreast.completed⟩

end Execution

include same

theorem Stmt.Aligned.executeAll {statements second : List Stmt}
    (aligned : Stmt.Aligned matched statements second) (lines : List ByteString) (count : Nat) (echo : Bool)
    (last : Value) :
    Execution.Matched matched lines count (Stmt.executeAll Run.impatient echo last statements)
      (Stmt.executeAll Run.impatient echo last second) := by
  induction aligned generalizing last with
  | nil =>
    rw [Stmt.executeAll]
    exact follows_pure last
  | expression inner _ ih =>
    refine Execution.matched_cons ?_ ih last
    rw [Stmt.execute, Stmt.execute]
    apply follows_bind (Execution.matched_evaluate same inner)
    intro value
    cases echo with
    | true => exact follows_bind (Execution.matched_print _ _ value) fun _ => follows_pure value
    | false => exact follows_pure value
  | print inner _ ih =>
    refine Execution.matched_cons ?_ ih last
    rw [Stmt.execute, Stmt.execute]
    apply follows_bind (Execution.matched_evaluate same inner)
    intro value
    exact follows_bind (Execution.matched_print _ _ value) fun _ => follows_pure value
  | letIn pair inner _ ih =>
    refine Execution.matched_cons ?_ ih last
    rw [Stmt.execute, Stmt.execute]
    apply follows_bind (Execution.matched_evaluate same inner)
    intro value
    exact follows_bind (Execution.matched_define (same pair).lexeme value) fun _ => follows_pure value
  | block _ _ inside ih =>
    refine Execution.matched_cons ?_ ih last
    rw [Stmt.execute, Stmt.execute]
    exact Execution.matched_inScope (inside .nil)

end Matching

end Scriptlet
