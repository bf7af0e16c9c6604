import Mathlib.Data.List.Forall2
import Scriptlet.Proofs.Cancellation
import Scriptlet.Proofs.Scopes

/-! What a block changes outside of itself. The scopes around a block bind the same names after it as
before, and the value of a name changes there only if the block assigns the name at a place where no
declaration of the block's own, or of a block inside it, has the name already. This holds however the
block comes out, since evaluation and execution keep to it step by step. -/
namespace Scriptlet

/-! Where a name is assigned, and where it is declared. -/

def Expr.assigns (name : ByteString) : Expr → Bool
  | assign token value => token.lexeme = name || value.assigns name
  | unary _ operand => operand.assigns name
  | binary left _ right => left.assigns name || right.assigns name
  | grouping _ inner => inner.assigns name
  | _ => false

namespace Stmt

/-- An assignment to the name stands in the statement's own expression. Those in a block are its
statements' own. -/
def assigns (name : ByteString) : Stmt → Bool
  | expression value => value.assigns name
  | print _ value => value.assigns name
  | letIn _ initializer => initializer.assigns name
  | block .. => false
  | hole => false

def declares (name : ByteString) : Stmt → Bool
  | letIn token _ => token.lexeme = name
  | _ => false

/-- The name is assigned at a place of the statements where neither they nor the statements of a block
around the place have declared it before. -/
inductive Escapes (name : ByteString) : List Stmt → Prop
  | here {statements before after : List Stmt} {stmt : Stmt}
      (split : statements = before ++ stmt :: after)
      (undeclared : ∀ earlier ∈ before, earlier.declares name = false)
      (assigned : stmt.assigns name = true) : Escapes name statements
  | inside {statements before after body : List Stmt} {brace : Token}
      (split : statements = before ++ block brace body :: after)
      (undeclared : ∀ earlier ∈ before, earlier.declares name = false)
      (deeper : Escapes name body) : Escapes name statements

section Escaping

variable {name : ByteString} {stmt : Stmt} {statements : List Stmt}

theorem escapes_own (assigned : stmt.assigns name = true) : Escapes name [stmt] :=
  .here (List.nil_append [stmt]).symm (by simp) assigned

theorem escapes_block {brace : Token} (escapes : Escapes name statements) :
    Escapes name [block brace statements] :=
  .inside (List.nil_append [block brace statements]).symm (by simp) escapes

theorem escapes_append (more : List Stmt) (escapes : Escapes name statements) :
    Escapes name (statements ++ more) := by
  cases escapes with
  | here split undeclared assigned =>
    subst split
    exact .here (List.append_assoc _ _ more) undeclared assigned
  | inside split undeclared deeper =>
    subst split
    exact .inside (List.append_assoc _ _ more) undeclared deeper

theorem escapes_cons (undeclared : stmt.declares name = false) (escapes : Escapes name statements) :
    Escapes name (stmt :: statements) := by
  cases escapes with
  | here split others assigned =>
    exact .here (congrArg (stmt :: ·) split) (List.forall_mem_cons.mpr ⟨undeclared, others⟩) assigned
  | inside split others deeper =>
    exact .inside (congrArg (stmt :: ·) split) (List.forall_mem_cons.mpr ⟨undeclared, others⟩) deeper

end Escaping

/-! Whether a name escapes can be found out statement by statement. -/

mutual

def escapes (name : ByteString) : Stmt → Bool
  | block _ body => anyEscapes name body
  | stmt => stmt.assigns name

def anyEscapes (name : ByteString) : List Stmt → Bool
  | [] => false
  | stmt :: rest => stmt.escapes name || (!stmt.declares name && anyEscapes name rest)

end

theorem anyEscapes_append {name : ByteString} {stmt : Stmt} {before : List Stmt} (after : List Stmt)
    (undeclared : ∀ earlier ∈ before, earlier.declares name = false)
    (found : stmt.escapes name = true) : anyEscapes name (before ++ stmt :: after) = true := by
  induction before with
  | nil => simp [anyEscapes, found]
  | cons earlier rest ih =>
    obtain ⟨first, others⟩ := List.forall_mem_cons.mp undeclared
    simp [anyEscapes, first, ih others]

theorem anyEscapes_of_escapes {name : ByteString} {statements : List Stmt}
    (escapes : Escapes name statements) : anyEscapes name statements = true := by
  induction escapes with
  | @here _ before after stmt split undeclared assigned =>
    subst split
    apply anyEscapes_append after undeclared
    cases stmt with
    | block brace body => cases assigned
    | _ => exact assigned
  | @inside _ before after body brace split undeclared _ ih =>
    subst split
    apply anyEscapes_append after undeclared
    exact ih

mutual

theorem escapes_of_found {name : ByteString} (stmt : Stmt) (found : stmt.escapes name = true) :
    Escapes name [stmt] := by
  cases stmt with
  | block brace body => exact escapes_block (escapes_of_anyFound body found)
  | _ => exact escapes_own found

theorem escapes_of_anyFound {name : ByteString} (statements : List Stmt)
    (found : anyEscapes name statements = true) : Escapes name statements := by
  cases statements with
  | nil => cases found
  | cons stmt rest =>
    rw [anyEscapes, Bool.or_eq_true, Bool.and_eq_true, Bool.not_eq_true'] at found
    rcases found with here | ⟨undeclared, later⟩
    · exact escapes_append rest (escapes_of_found stmt here)
    · exact escapes_cons undeclared (escapes_of_anyFound rest later)

end

instance (name : ByteString) (statements : List Stmt) : Decidable (Escapes name statements) :=
  decidable_of_iff (anyEscapes name statements = true) ⟨escapes_of_anyFound statements, anyEscapes_of_escapes⟩

-- A declaration shelters what comes after it in its own block, and nothing once that block is left.
example :
    let name (lexeme : String) : Token := ⟨.identifier, lexeme, "", 1⟩
    let assign (lexeme : String) : Stmt := .expression (.assign (name lexeme) (.nil .nowhere))
    let declare (lexeme : String) : Stmt := .letIn (name lexeme) (.nil .nowhere)
    let inner : Stmt := .block .nowhere [declare "b", assign "b", declare "c"]
    let body := [assign "a", declare "a", inner, assign "c"]
    Escapes "a" body ∧ ¬ Escapes "b" body ∧ Escapes "c" body := by
  decide

end Stmt

open Stmt

/-! Scopes whose names stay, and some of whose values stay. -/

namespace Scope

structure Spares (spared : ByteString → Prop) (before after : Scope) : Prop where
  names : ∀ name, after.binds name = before.binds name
  values : ∀ name, spared name → after.get? name = before.get? name

variable {spared fewer : ByteString → Prop} {before middle after : Scope}

theorem spares_refl (scope : Scope) : scope.Spares spared scope :=
  ⟨fun _ => rfl, fun _ _ => rfl⟩

theorem Spares.mono (spares : before.Spares spared after) (less : ∀ name, fewer name → spared name) :
    before.Spares fewer after :=
  ⟨spares.names, fun name isFewer => spares.values name (less name isFewer)⟩

theorem Spares.trans (spares : before.Spares spared middle) (further : middle.Spares spared after) :
    before.Spares spared after := by
  constructor
  · intro name
    rw [further.names, spares.names]
  · intro name isSpared
    rw [further.values name isSpared, spares.values name isSpared]

theorem spares_set {scope : Scope} {name : ByteString} (value : Value) (bound : scope.binds name = true) :
    scope.Spares (· ≠ name) (scope.set name value) := by
  constructor
  · intro other
    rw [binds_set_of_bound value bound]
  · intro other differs
    rw [get?_set, if_neg differs]

end Scope

/-- Scopes one around another, from the inside out. A name is spared in all that lie around one that
binds it, since what is done to the name from inside is done there. -/
inductive Sheltered : (ByteString → Prop) → List Scope → List Scope → Prop
  | nil {spared : ByteString → Prop} : Sheltered spared [] []
  | cons {spared : ByteString → Prop} {before after : Scope} {rest others : List Scope}
      (here : before.Spares spared after)
      (around : Sheltered (fun name => spared name ∨ before.binds name = true) rest others) :
      Sheltered spared (before :: rest) (after :: others)

namespace Sheltered

variable {spared fewer : ByteString → Prop} {before middle after : List Scope}

theorem refl (scopes : List Scope) : Sheltered spared scopes scopes := by
  induction scopes generalizing spared with
  | nil => exact .nil
  | cons scope rest ih => exact .cons scope.spares_refl ih

theorem mono (sheltered : Sheltered spared before after) (less : ∀ name, fewer name → spared name) :
    Sheltered fewer before after := by
  induction sheltered generalizing fewer with
  | nil => exact .nil
  | cons here _ ih =>
    apply Sheltered.cons (here.mono less)
    apply ih
    rintro name (isFewer | bound)
    · exact .inl (less name isFewer)
    · exact .inr bound

theorem trans (sheltered : Sheltered spared before middle) (further : Sheltered spared middle after) :
    Sheltered spared before after := by
  induction sheltered generalizing after with
  | nil => exact further
  | cons here _ ih =>
    cases further with
    | cons hereToo aroundToo =>
      apply Sheltered.cons (here.trans hereToo)
      apply ih
      apply aroundToo.mono
      rintro name (isSpared | bound)
      · exact .inl isSpared
      · exact .inr ((here.names name).trans bound)

theorem assign {name : ByteString} {value : Value} (other : ∀ sought, spared sought → sought ≠ name)
    (assigned : Environment.assignIn name value before = some after) : Sheltered spared before after := by
  induction before generalizing spared after with
  | nil => simp [Environment.assignIn] at assigned
  | cons scope rest ih =>
    by_cases bound : scope.binds name = true
    · simp only [Environment.assignIn, bound, if_true, Option.some.injEq] at assigned
      subst assigned
      exact .cons ((Scope.spares_set value bound).mono other) (refl rest)
    · simp only [Environment.assignIn, bound, Bool.false_eq_true, if_false,
        Option.map_eq_some_iff] at assigned
      obtain ⟨further, deeper, rfl⟩ := assigned
      apply Sheltered.cons scope.spares_refl
      apply ih _ deeper
      rintro sought (isSpared | binds) rfl
      · exact other sought isSpared rfl
      · exact bound binds

theorem spares (sheltered : Sheltered spared before after) :
    List.Forall₂ (Scope.Spares spared) before after := by
  induction sheltered with
  | nil => exact .nil
  | cons here _ ih =>
    apply List.Forall₂.cons here
    apply ih.imp
    intro scope other spares
    exact spares.mono fun _ isSpared => .inl isSpared

end Sheltered

/-! Evaluation. -/

namespace Evaluation

variable {α : Type} {spared : ByteString → Prop}

abbrev Shelters (spared : ByteString → Prop) (evaluation : Evaluation α) : Prop :=
  Leads (fun before after => Sheltered spared before.scopes after.scopes)
    (fun before after => Sheltered spared before.scopes after.scopes) evaluation

theorem shelters_bind {β : Type} {first : Evaluation α} {next : α → Evaluation β}
    (shelters : first.Shelters spared) (further : ∀ value, (next value).Shelters spared) :
    (first >>= next).Shelters spared :=
  leads_seq (fun _ _ _ => Sheltered.trans) shelters further

theorem shelters_pure (value : α) : (pure value : Evaluation α).Shelters spared :=
  fun environment => .refl environment.scopes

theorem shelters_fail (fault : RuntimeFault) (token : Token) :
    (fail fault token : Evaluation α).Shelters spared :=
  fun environment => .refl environment.scopes

theorem shelters_applied (operator : Token) (result : Except RuntimeFault Value) :
    (applied operator result).Shelters spared := by
  cases result with
  | ok value => exact shelters_pure value
  | error fault => exact shelters_fail fault operator

theorem shelters_get (name : Token) : (get name).Shelters spared := by
  intro environment
  unfold get
  cases environment.lookup? name.lexeme with
  | some value => exact .refl environment.scopes
  | none => exact .refl environment.scopes

theorem shelters_assign (name : Token) (value : Value)
    (other : ∀ sought, spared sought → sought ≠ name.lexeme) : (assign name value).Shelters spared := by
  intro environment
  have inScopes := environment.assign?_eq name.lexeme value
  unfold assign
  cases assigned : environment.assign? name.lexeme value with
  | none => exact .refl environment.scopes
  | some changed =>
    rw [assigned] at inScopes
    exact .assign other inScopes.symm

end Evaluation

/-- Evaluation keeps the value of every name that the expression does not assign. -/
theorem Expr.evaluate_shelters {spared : ByteString → Prop} (expr : Expr)
    (free : ∀ name, spared name → expr.assigns name = false) : expr.evaluate.Shelters spared := by
  induction expr with
  | reference name => exact Evaluation.shelters_get name
  | assign token value ih =>
    have other (name : ByteString) (isSpared : spared name) :
        token.lexeme ≠ name ∧ value.assigns name = false := by
      simpa [assigns] using free name isSpared
    apply Evaluation.shelters_bind
    · exact ih fun name isSpared => (other name isSpared).2
    · intro result
      apply Evaluation.shelters_bind
      · exact Evaluation.shelters_assign token result fun name isSpared => (other name isSpared).1.symm
      · exact fun _ => Evaluation.shelters_pure result
  | grouping paren inner ih => exact ih free
  | unary operator operand ih =>
    apply Evaluation.shelters_bind (ih free)
    intro value
    cases UnaryOperator.ofKind? operator.kind with
    | some operation => exact Evaluation.shelters_applied operator _
    | none => exact Evaluation.shelters_fail .unaryOperator operator
  | binary left operator right leftIH rightIH =>
    have both (name : ByteString) (isSpared : spared name) :
        left.assigns name = false ∧ right.assigns name = false := by
      simpa [assigns] using free name isSpared
    apply Evaluation.shelters_bind
    · exact leftIH fun name isSpared => (both name isSpared).1
    · intro first
      apply Evaluation.shelters_bind
      · exact rightIH fun name isSpared => (both name isSpared).2
      · intro second
        cases BinaryOperator.ofKind? operator.kind with
        | some operation => exact Evaluation.shelters_applied operator _
        | none => exact Evaluation.shelters_fail .binaryOperator operator
  | hole => exact Evaluation.shelters_fail .missingExpression .nowhere
  | _ => exact Evaluation.shelters_pure _

/-! Execution. The innermost scope may come to bind more names, and shelters those from then on. -/

namespace Environment

/-- The innermost scope binds what it did and maybe more; the scopes around it are sheltered. -/
structure Contains (spared : ByteString → Prop) (before after : Environment) : Prop where
  inner : ∀ name, before.inner.binds name = true → after.inner.binds name = true
  outer : Sheltered (fun name => spared name ∨ before.inner.binds name = true) before.outer after.outer

variable {spared first second : ByteString → Prop} {before middle after : Environment}

theorem contains_refl (environment : Environment) : environment.Contains spared environment :=
  ⟨fun _ bound => bound, .refl environment.outer⟩

theorem Contains.mono {fewer : ByteString → Prop} (contains : before.Contains spared after)
    (less : ∀ name, fewer name → spared name) : before.Contains fewer after := by
  refine ⟨contains.inner, contains.outer.mono ?_⟩
  rintro name (isFewer | bound)
  · exact .inl (less name isFewer)
  · exact .inr bound

theorem Contains.trans {declared : ByteString → Prop} (contains : before.Contains first middle)
    (declares : ∀ name, declared name → middle.inner.binds name = true)
    (further : middle.Contains second after) :
    before.Contains (fun name => first name ∧ (declared name ∨ second name)) after := by
  -- What was declared in the meantime need not be spared any more.
  constructor
  · exact fun name bound => further.inner name (contains.inner name bound)
  · have start : Sheltered (fun name => first name ∧ (declared name ∨ second name) ∨
        before.inner.binds name = true) before.outer middle.outer := by
      apply contains.outer.mono
      rintro name (⟨isFirst, -⟩ | bound)
      · exact .inl isFirst
      · exact .inr bound
    apply start.trans
    apply further.outer.mono
    rintro name (⟨-, isDeclared | isSecond⟩ | bound)
    · exact .inr (declares name isDeclared)
    · exact .inl isSecond
    · exact .inr (contains.inner name bound)

theorem contains_of_sheltered (sheltered : Sheltered spared before.scopes after.scopes) :
    before.Contains spared after := by
  cases sheltered with
  | cons here around => exact ⟨fun name bound => (here.names name).trans bound, around⟩

theorem contains_define (environment : Environment) (name : ByteString) (value : Value) :
    environment.Contains spared (environment.define name value) := by
  constructor
  · intro sought bound
    simp [define, Scope.binds_set, bound]
  · exact .refl environment.outer

theorem sheltered_of_contains {inside : Environment} (contains : before.enter.Contains spared inside) :
    Sheltered spared before.scopes inside.leave.scopes := by
  -- A scope that was entered is empty and shelters nothing; once it is left, the scopes around it are
  -- all there is.
  have around : Sheltered spared before.scopes inside.outer :=
    contains.outer.mono fun _ isSpared => .inl isSpared
  cases within : inside.outer with
  | nil =>
    rw [within] at around
    cases around
  | cons scope rest =>
    rw [within] at around
    simpa [leave, within, scopes] using around

end Environment

namespace Execution

variable {α β : Type} {spared declared first second : ByteString → Prop}

/-- However it comes out, what is around is contained; if it succeeds, the innermost scope binds the
declared names. -/
abbrev Contains (spared declared : ByteString → Prop) (execution : Execution α) : Prop :=
  Leads (fun before after => before.environment.Contains spared after.environment ∧
      ∀ name, declared name → after.environment.inner.binds name = true)
    (fun before after => before.environment.Contains spared after.environment) execution

abbrev Idle (execution : Execution α) : Prop :=
  execution.Contains (fun _ => True) (fun _ => False)

theorem contains_bind {execution : Execution α} {next : α → Execution β}
    (start : execution.Contains first declared) (finish : ∀ value, (next value).Contains second spared) :
    (execution >>= next).Contains (fun name => first name ∧ (declared name ∨ second name))
      (fun name => declared name ∨ spared name) := by
  apply leads_bind start finish
  · rintro before middle after ⟨contains, declares⟩ ⟨further, declaresToo⟩
    refine ⟨contains.trans declares further, ?_⟩
    rintro name (early | late)
    · exact further.inner name (declares name early)
    · exact declaresToo name late
  · exact fun before after contains => contains.mono fun name both => both.1
  · rintro before middle after ⟨contains, declares⟩ further
    exact contains.trans declares further

theorem Contains.mono {execution : Execution α} (contains : execution.Contains first declared)
    (less : ∀ name, spared name → first name) (fewer : ∀ name, second name → declared name) :
    execution.Contains spared second := by
  apply leads_mono contains
  · rintro before after ⟨around, declares⟩
    exact ⟨around.mono less, fun name isDeclared => declares name (fewer name isDeclared)⟩
  · exact fun before after around => around.mono less

theorem contains_then {execution : Execution α} {next : α → Execution β} (idle : execution.Idle)
    (finish : ∀ value, (next value).Contains spared declared) :
    (execution >>= next).Contains spared declared :=
  (contains_bind idle finish).mono (fun _ isSpared => ⟨trivial, .inr isSpared⟩) fun _ => .inr

theorem contains_finally {execution : Execution α} {next : α → Execution β}
    (start : execution.Contains spared declared) (idle : ∀ value, (next value).Idle) :
    (execution >>= next).Contains spared declared :=
  (contains_bind start idle).mono (fun _ isSpared => ⟨isSpared, .inr trivial⟩) fun _ => .inl

theorem idle_pure (value : α) : (pure value : Execution α).Idle :=
  fun run => ⟨run.environment.contains_refl, fun _ => False.elim⟩

theorem idle_modify {change : Run → Run} (keeps : ∀ run, (change run).environment = run.environment) :
    (modify change : Execution Unit).Idle := by
  intro run
  show run.environment.Contains _ (change run).environment ∧ _
  rw [keeps run]
  exact ⟨run.environment.contains_refl, fun _ => False.elim⟩

theorem idle_record (event : Event) : (record event).Idle :=
  idle_modify fun _ => rfl

theorem idle_print (line : Int) (value : Value) : (print line value).Idle :=
  contains_then (idle_modify fun _ => rfl) fun _ => idle_record _

theorem idle_checkInterrupt (interrupt : Run → Bool) : (checkInterrupt interrupt).Idle := by
  intro run
  unfold checkInterrupt
  cases interrupt run with
  | true => exact run.environment.contains_refl
  | false => exact ⟨run.environment.contains_refl, fun _ => False.elim⟩

theorem contains_define (name : ByteString) (value : Value) :
    (define name value).Contains (fun _ => True) (· = name) := by
  intro run
  refine ⟨run.environment.contains_define name value, ?_⟩
  rintro _ rfl
  simp [Environment.define, Scope.binds_set]

abbrev Shelters (spared : ByteString → Prop) (execution : Execution α) : Prop :=
  Leads (fun before after => Sheltered spared before.environment.scopes after.environment.scopes)
    (fun before after => Sheltered spared before.environment.scopes after.environment.scopes) execution

theorem contains_of_shelters {execution : Execution α} (shelters : execution.Shelters spared) :
    execution.Contains spared (fun _ => False) := by
  apply leads_mono shelters
  · exact fun before after held => ⟨Environment.contains_of_sheltered held, fun _ => False.elim⟩
  · exact fun before after held => Environment.contains_of_sheltered held

theorem shelters_evaluate (expr : Expr) :
    (evaluate expr).Shelters fun name => expr.assigns name = false := by
  intro run
  have held := expr.evaluate_shelters (fun _ => id) run.environment
  unfold evaluate
  cases outcome : expr.evaluate run.environment with
  | ok value after =>
    rw [outcome] at held
    exact held
  | error error after =>
    rw [outcome] at held
    exact held

theorem shelters_inScope {inside : Execution α} (contains : inside.Contains spared declared) :
    (inScope inside).Shelters spared := by
  -- What a scope declares is gone with it, and what it sheltered was never outside.
  intro run
  have held := contains { run with environment := run.environment.enter }
  unfold inScope
  cases outcome : inside { run with environment := run.environment.enter } with
  | ok value after =>
    rw [outcome] at held
    exact Environment.sheltered_of_contains held.1
  | error stop after =>
    rw [outcome] at held
    exact Environment.sheltered_of_contains held

theorem contains_tracked {inside : Execution Value} (interrupt : Run → Bool) (kind : String) (line : Int)
    (contains : inside.Contains spared declared) :
    (tracked interrupt kind line inside).Contains spared declared := by
  apply contains_then (idle_checkInterrupt interrupt)
  intro _
  apply contains_then (idle_record _)
  intro _
  apply contains_finally contains
  intro value
  apply contains_then
  · exact idle_modify fun _ => rfl
  · exact fun _ => contains_then (idle_record _) fun _ => idle_pure value

end Execution

/-! Statements. -/

namespace Stmt

mutual

theorem execute_contains (interrupt : Run → Bool) (echo : Bool) (stmt : Stmt) :
    (stmt.execute interrupt echo).Contains (fun name => ¬ Escapes name [stmt])
      (fun name => stmt.declares name = true) := by
  have own (name : ByteString) (free : ¬ Escapes name [stmt]) : stmt.assigns name = false :=
    Bool.eq_false_iff.mpr fun assigned => free (escapes_own assigned)
  have evaluates {expr : Expr} (part : ∀ name, stmt.assigns name = expr.assigns name) :
      (Execution.evaluate expr).Contains (fun name => ¬ Escapes name [stmt]) (fun _ => False) :=
    (Execution.contains_of_shelters (Execution.shelters_evaluate expr)).mono
      (fun name free => (part name).symm.trans (own name free)) fun _ => id
  cases stmt with
  | letIn token initializer =>
    rw [execute]
    have defines (value : Value) : (do
        Execution.define token.lexeme value
        pure value : Execution Value).Contains (fun _ => True) (· = token.lexeme) :=
      Execution.contains_finally (Execution.contains_define token.lexeme value)
        fun _ => Execution.idle_pure value
    apply (Execution.contains_bind (evaluates fun _ => rfl) defines).mono
    · exact fun name free => ⟨free, .inr trivial⟩
    · exact fun name same => .inr (of_decide_eq_true same).symm
  | print keyword expr =>
    rw [execute]
    have prints (value : Value) : (do
        Execution.print (print keyword expr).line value
        pure value : Execution Value).Idle :=
      Execution.contains_then (Execution.idle_print _ value) fun _ => Execution.idle_pure value
    apply (Execution.contains_finally (evaluates fun _ => rfl) prints).mono fun _ => id
    exact fun name declared => Bool.false_ne_true declared
  | expression expr =>
    rw [execute]
    have echoes (value : Value) : (do
        if echo then Execution.print (expression expr).line value
        pure value : Execution Value).Idle := by
      cases echo with
      | true =>
        exact Execution.contains_then (Execution.idle_print _ value) fun _ => Execution.idle_pure value
      | false => exact Execution.idle_pure value
    apply (Execution.contains_finally (evaluates fun _ => rfl) echoes).mono fun _ => id
    exact fun name declared => Bool.false_ne_true declared
  | block brace body =>
    have inside := Execution.shelters_inScope (executeAll_contains interrupt echo .nil body)
    rw [execute]
    apply (Execution.contains_of_shelters inside).mono
    · exact fun name free escapes => free (escapes_block escapes)
    · exact fun name declared => Bool.false_ne_true declared
  | hole =>
    intro run
    exact run.environment.contains_refl

theorem executeAll_contains (interrupt : Run → Bool) (echo : Bool) (last : Value)
    (statements : List Stmt) :
    (executeAll interrupt echo last statements).Contains (fun name => ¬ Escapes name statements)
      (fun _ => False) := by
  cases statements with
  | nil =>
    rw [executeAll]
    exact (Execution.idle_pure last).mono (fun _ _ => trivial) fun _ => id
  | cons stmt rest =>
    rw [executeAll]
    have tracked := Execution.contains_tracked interrupt stmt.kindName stmt.line
      (execute_contains interrupt echo stmt)
    apply (Execution.contains_bind tracked fun value =>
      executeAll_contains interrupt echo value rest).mono
    · intro name free
      constructor
      · exact fun escapes => free (escapes_append rest escapes)
      · by_cases declared : stmt.declares name = true
        · exact .inl declared
        · exact .inr fun escapes => free (escapes_cons (Bool.eq_false_iff.mpr declared) escapes)
    · exact fun _ => False.elim

end

end Stmt

/-- Blocks do not leak. However a block comes out, run to its end, failed at any depth or interrupted
anywhere, every scope around it binds the names it did, and a name has the value it had unless it is
assigned in the block where neither the block nor one inside it has declared it before. -/
theorem blocks_do_not_leak (brace : Token) (body : List Stmt) (echo : Bool) :
    ∀ interrupt run,
      let after := Execution.final ((block brace body).execute interrupt echo run)
      List.Forall₂ (Scope.Spares fun name => ¬ Escapes name body) run.environment.scopes
        after.environment.scopes := by
  intro interrupt run
  have inside := executeAll_contains interrupt echo .nil body
  have held := Execution.shelters_inScope inside run
  rw [Stmt.execute]
  cases outcome : Execution.inScope (executeAll interrupt echo .nil body) run with
  | ok value after =>
    rw [outcome] at held
    exact held.spares
  | error stop after =>
    rw [outcome] at held
    exact held.spares

end Scriptlet
