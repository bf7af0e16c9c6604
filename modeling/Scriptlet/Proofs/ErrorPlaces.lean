import Scriptlet.Proofs.NameChecks
import Scriptlet.Proofs.SourceLines

/-! Where a program fails. A program that was read fails for want of a name, at the name, or because an
operator cannot be applied, at the operator. It never fails for a reason of the interpreter's own. -/
namespace Scriptlet

/-- The error is of a kind that its token can raise: a name that is not bound, an operator whose operands
do not suit it, or a division by zero. -/
def RuntimeError.Apt (error : RuntimeError) : Prop :=
  error.fault.code = "E_UNDEFINED" ∧ error.token.kind = .identifier ∨
    error.fault.code = "E_TYPE" ∧ error.token.kind ∈ Reader.tiers.flatten ∨
    error.fault.code = "E_DIV_ZERO" ∧ error.token.kind = .slash

/-! Operators. -/

theorem Arithmetic.fault_cases {operation : Arithmetic} {left right : Value} {fault : RuntimeFault}
    (failed : operation.apply left right = .error fault) :
    fault.code = "E_TYPE" ∨ fault.code = "E_DIV_ZERO" ∧ operation = divide := by
  unfold apply at failed
  split at failed
  · split at failed
    · next zero =>
      cases failed
      exact .inr ⟨rfl, zero.1⟩
    · cases failed
  · split at failed
    · next zero =>
      cases failed
      exact .inr ⟨rfl, zero.1⟩
    · cases failed
  · split at failed
    · cases failed
    · cases failed
      exact .inl rfl
  · cases failed
    exact .inl rfl

theorem BinaryOperator.fault_cases {operator : BinaryOperator} {left right : Value}
    {fault : RuntimeFault} (failed : operator.apply left right = .error fault) :
    fault.code = "E_TYPE" ∨ fault.code = "E_DIV_ZERO" ∧ operator = arithmetic .divide := by
  cases operator with
  | arithmetic operation =>
    rcases Arithmetic.fault_cases failed with kinds | ⟨zero, rfl⟩
    · exact .inl kinds
    · exact .inr ⟨zero, rfl⟩
  | comparison operation =>
    left
    simp only [apply, Comparison.apply] at failed
    split at failed <;> cases failed
    rfl
  | equal =>
    left
    simp only [apply] at failed
    split at failed <;> cases failed
    rfl
  | unequal =>
    left
    simp only [apply] at failed
    split at failed <;> cases failed
    rfl

theorem UnaryOperator.fault_cases {operator : UnaryOperator} {operand : Value} {fault : RuntimeFault}
    (failed : operator.apply operand = .error fault) : fault.code = "E_TYPE" ∧ operator = negate := by
  cases operator with
  | not => cases failed
  | negate =>
    simp only [apply] at failed
    split at failed <;> cases failed
    exact ⟨rfl, rfl⟩

theorem ofKind_of_tightness {kind : TokenKind} (joins : 0 < kind.tightness) :
    kind ∈ Reader.tiers.flatten ∧ ∃ operator, BinaryOperator.ofKind? kind = some operator ∧
      (operator = .arithmetic .divide → kind = .slash) := by
  cases kind <;> simp [TokenKind.tightness, Reader.tiers, BinaryOperator.ofKind?] at joins ⊢

theorem ofKind_of_sign {kind : TokenKind} (sign : kind = .bang ∨ kind = .minus) :
    ∃ operator, UnaryOperator.ofKind? kind = some operator ∧ (operator = .negate → kind = .minus) := by
  rcases sign with rfl | rfl
  · exact ⟨.not, rfl, fun same => nomatch same⟩
  · exact ⟨.negate, rfl, fun _ => rfl⟩

/-! Expressions. -/

def FailsOnly {α : Type} (raised : RuntimeError → Prop) (evaluation : Evaluation α) : Prop :=
  ∀ before error after, evaluation before = .error error after → raised error

namespace FailsOnly

variable {α β : Type} {raised : RuntimeError → Prop}

theorem pure (value : α) : FailsOnly raised (pure value : Evaluation α) := by
  intro before error after fails
  cases fails

theorem bind {evaluation : Evaluation α} {next : α → Evaluation β} (first : FailsOnly raised evaluation)
    (further : ∀ value, FailsOnly raised (next value)) : FailsOnly raised (evaluation >>= next) := by
  intro before error after fails
  rw [bind_run] at fails
  cases outcome : evaluation before with
  | ok value middle =>
    rw [outcome] at fails
    exact further value middle error after fails
  | error other middle =>
    rw [outcome] at fails
    cases fails
    exact first before error after outcome

theorem fail {fault : RuntimeFault} {token : Token} (held : raised ⟨fault, token⟩) :
    FailsOnly raised (Evaluation.fail fault token : Evaluation α) := by
  intro before error after fails
  cases fails
  exact held

theorem applied {operator : Token} {result : Except RuntimeFault Value}
    (faults : ∀ fault, result = .error fault → raised ⟨fault, operator⟩) :
    FailsOnly raised (Evaluation.applied operator result) := by
  cases result with
  | ok value => exact pure value
  | error fault => exact fail (faults fault rfl)

theorem get {name : Token} (missing : raised (.undefined name)) :
    FailsOnly raised (Evaluation.get name) := by
  intro before error after fails
  unfold Evaluation.get at fails
  split at fails <;> cases fails
  exact missing

theorem assign {name : Token} (value : Value) (missing : raised (.undefined name)) :
    FailsOnly raised (Evaluation.assign name value) := by
  intro before error after fails
  unfold Evaluation.assign at fails
  split at fails <;> cases fails
  exact missing

end FailsOnly

theorem apt_undefined {name : Token} (kind : name.kind = .identifier) : (RuntimeError.undefined name).Apt :=
  .inl ⟨rfl, kind⟩

theorem leaf_fails {token : Token} {expr : Expr} (leaf : Leaf token expr) :
    FailsOnly RuntimeError.Apt expr.evaluate := by
  cases leaf with
  | no | yes | nil | string => exact .pure _
  | name kind => exact .get (apt_undefined kind)
  | integer | float =>
    rcases ofLiteral_cases token token.literal with ⟨value, same⟩ | ⟨value, same⟩ | ⟨value, same⟩ |
      ⟨value, same⟩ | same
    all_goals rw [same]; exact .pure _

/-- What the grammar derives fails at a token that can fail, and with what that token can raise. -/
theorem derives_apt {rank : Nat} {tokens : List Token} {expr : Expr} (derived : Derives rank tokens expr) :
    FailsOnly RuntimeError.Apt expr.evaluate := by
  induction derived with
  | leaf stands => exact leaf_fails stands
  | grouping _ _ _ ih => exact ih
  | tighter _ ih => exact ih
  | assign target _ _ ih =>
    exact ih.bind fun value => (FailsOnly.assign value (apt_undefined target)).bind fun _ => .pure value
  | @unary operator operand expr sign _ ih =>
    refine ih.bind fun value => ?_
    obtain ⟨operation, known, minus⟩ := ofKind_of_sign sign
    rw [known]
    refine .applied fun fault failed => ?_
    obtain ⟨code, rfl⟩ := UnaryOperator.fault_cases failed
    exact .inr (.inl ⟨code, by simp [minus rfl, Reader.tiers]⟩)
  | @binary rank operator left right first second joins binds _ _ onLeft onRight =>
    refine onLeft.bind fun one => onRight.bind fun other => ?_
    obtain ⟨listed, operation, known, slash⟩ := ofKind_of_tightness (binds.symm ▸ joins)
    rw [known]
    refine .applied fun fault failed => ?_
    rcases BinaryOperator.fault_cases failed with code | ⟨code, divides⟩
    · exact .inr (.inl ⟨code, listed⟩)
    · exact .inr (.inr ⟨code, slash divides⟩)

def RuntimeError.Named (error : RuntimeError) : Prop :=
  ∀ name, error.fault = .undefined name → name = error.token.lexeme

theorem named_undefined (name : Token) : (RuntimeError.undefined name).Named := by
  intro missing same
  cases same
  rfl

theorem named_of_code {error : RuntimeError} (other : error.fault.code ≠ "E_UNDEFINED") : error.Named := by
  intro name same
  rw [same] at other
  exact absurd rfl other

theorem evaluate_named (expr : Expr) : FailsOnly RuntimeError.Named expr.evaluate := by
  induction expr with
  | integer | float | string | boolean | nil => exact .pure _
  | reference name => exact .get (named_undefined name)
  | grouping _ _ ih => exact ih
  | assign name _ ih =>
    exact ih.bind fun value => (FailsOnly.assign value (named_undefined name)).bind fun _ => .pure value
  | unary operator _ ih =>
    refine ih.bind fun value => ?_
    cases UnaryOperator.ofKind? operator.kind with
    | some operation =>
      refine .applied fun fault failed => named_of_code ?_
      simp [UnaryOperator.fault_cases failed]
    | none => exact .fail (named_of_code (by simp [RuntimeFault.code]))
  | binary _ operator _ onLeft onRight =>
    refine onLeft.bind fun one => onRight.bind fun other => ?_
    cases BinaryOperator.ofKind? operator.kind with
    | some operation =>
      refine .applied fun fault failed => named_of_code ?_
      rcases BinaryOperator.fault_cases failed with code | ⟨code, -⟩ <;> simp [code]
    | none => exact .fail (named_of_code (by simp [RuntimeFault.code]))
  | hole => exact .fail (named_of_code (by simp [RuntimeFault.code]))

/-! Programs. -/

/-- The error is that of an expression written with some of the tokens. -/
def FailsWithin (tokens : List Token) (error : RuntimeError) : Prop :=
  ∃ written expr before after, written ⊆ tokens ∧ Derives Rank.assignment written expr ∧
    expr.evaluate before = .error error after

theorem FailsWithin.mono {tokens others : List Token} {error : RuntimeError} (part : tokens ⊆ others)
    (fails : FailsWithin tokens error) : FailsWithin others error := by
  obtain ⟨written, expr, before, after, inside, derived, raises⟩ := fails
  exact ⟨written, expr, before, after, fun token listed => part (inside listed), derived, raises⟩

theorem FailsWithin.apt {tokens : List Token} {error : RuntimeError} (fails : FailsWithin tokens error) :
    error.Apt ∧ error.token ∈ tokens := by
  obtain ⟨written, expr, before, after, inside, derived, raises⟩ := fails
  exact ⟨derives_apt derived before error after raises, inside (derives_fails derived raises)⟩

theorem FailsWithin.written {written tokens : List Token} {expr : Expr} {error : RuntimeError}
    (derived : Derives Rank.assignment written expr) (inside : written ⊆ tokens)
    (raises : ∃ before after, expr.evaluate before = .error error after) : FailsWithin tokens error := by
  obtain ⟨before, after, fails⟩ := raises
  exact ⟨written, expr, before, after, inside, derived, fails⟩

theorem raises_cons {tokens rest : List Token} {stmt : Stmt} {statements : List Stmt} {error : RuntimeError}
    (first : ∀ part ∈ stmt.parts, part.Raises error → FailsWithin tokens error) (later : rest ⊆ tokens)
    (others : ∀ part ∈ Stmt.allParts statements, part.Raises error → FailsWithin rest error) :
    ∀ part ∈ Stmt.allParts (stmt :: statements), part.Raises error → FailsWithin tokens error :=
  List.forall_mem_append.mpr ⟨first, fun part inside raises => (others part inside raises).mono later⟩

theorem sentence_raises {tokens : List Token} {statements : List Stmt} {error : RuntimeError}
    (sentence : Sentence tokens statements) :
    ∀ stmt ∈ Stmt.allParts statements, stmt.Raises error → FailsWithin tokens error := by
  induction sentence with
  | nil => exact List.forall_mem_nil _
  | declaration _ _ _ _ ih =>
    refine raises_cons (List.forall_mem_singleton.mpr ?_) (fun token inside => by simp [inside]) ih
    -- What stands for the value that is not written never fails.
    rintro ⟨before, after, fails⟩
    cases fails
  | definition _ _ _ derived _ _ ih =>
    refine raises_cons (List.forall_mem_singleton.mpr ?_) (fun token inside => by simp [inside]) ih
    exact .written derived fun token inside => by simp [inside]
  | print _ derived _ _ ih =>
    refine raises_cons (List.forall_mem_singleton.mpr ?_) (fun token inside => by simp [inside]) ih
    exact .written derived fun token inside => by simp [inside]
  | expression derived _ _ ih =>
    refine raises_cons (List.forall_mem_singleton.mpr ?_) (fun token inside => by simp [inside]) ih
    exact .written derived fun token inside => by simp [inside]
  | block _ _ _ _ deeper ih =>
    refine raises_cons (List.forall_mem_cons.mpr ⟨?_, ?_⟩) (fun token inside => by simp [inside]) ih
    · exact fun raises => False.elim raises
    · intro stmt within raises
      exact (deeper stmt within raises).mono fun token inside => by simp [inside]

theorem Scan.words_breaks {source : String} {token : Token} (listed : token ∈ words source) :
    1 ≤ token.line ∧ token.line ≤ 1 + source.toList.count '\n' := by
  have lines := placed_line listed
  rwa [breaks_segments] at lines

/-- A program that was read fails at one of its own tokens, if it fails. From whatever bindings it is run,
and as long as it is not cancelled, it comes to a value or to an error that its source accounts for: a name
that is not bound, at that name; an operator with unsuitable operands, at the operator; a division by zero,
at the slash. The token is one that the text was scanned to, on a line that the text has. -/
theorem runtime_errors_are_in_source {source : String} {statements : List Stmt}
    (accepted : Program.ofSource source = .ok statements) (globals : Scope) (echo : Bool) :
    let report := execute statements (.global globals) echo none
    (∃ value, report.result = .ok value) ∨
      ∃ error, report.result = .error (.error error) ∧ error.token ∈ (scan source).tokens ∧
        1 ≤ error.token.line ∧ error.token.line ≤ 1 + source.toList.count '\n' ∧
        (error.fault.code = "E_UNDEFINED" ∧ error.token.kind = .identifier ∨
          error.fault.code = "E_TYPE" ∧ error.token.kind ∈ Reader.tiers.flatten ∨
          error.fault.code = "E_DIV_ZERO" ∧ error.token.kind = .slash) := by
  intro report
  have patient := execute_result statements globals echo
  obtain ⟨body, around, holds⟩ := executeUntil_holds Run.impatient statements (.global globals) echo none
  have recorded : Recorded echo statements around body report.result := holds.recorded
  cases ending : report.result with
  | ok value => exact .inl ⟨value, rfl⟩
  | error stop =>
    right
    rw [ending] at patient recorded
    obtain ⟨error, rfl, -⟩ := patient
    obtain ⟨stmt, found, raises⟩ := stopped_raises recorded error rfl
    obtain ⟨apt, word⟩ := (sentence_raises (sentence_of_source accepted) stmt found raises).apt
    obtain ⟨low, high⟩ := Scan.words_breaks word
    refine ⟨error, rfl, ?_, low, high, apt⟩
    rw [Scan.scan_tokens]
    exact List.mem_append_left _ word

/-- The comparison on the second line of two fails at its sign: a truth value from outside has no order. -/
theorem runtime_errors_are_in_source_comparison :
    let source := "\x7blet b = a;\nprint b < nil;\x7d"
    let less : Token := ⟨.less, "<", "<", 2⟩
    ∃ statements, Program.ofSource source = .ok statements ∧
      (execute statements (.global (.ofList [("a", .boolean true)])) false none).result =
        .error (.error ⟨.operands "less than" .boolean .nil, less⟩) ∧
      less ∈ (scan source).tokens ∧ less.line ≤ 1 + source.toList.count '\n' := by
  intro source less
  let brace : Token := ⟨.leftBrace, "\x7b", "\x7b", 1⟩
  let print : Token := ⟨.printWord, "print", "", 2⟩
  let name (lexeme : String) (line : Int) : Token := ⟨.identifier, lexeme, "", line⟩
  let statements : List Stmt := [.block brace [.letIn (name "b" 1) (.reference (name "a" 1)),
    .print print (.binary (.reference (name "b" 2)) less (.nil ⟨.nilWord, "nil", "", 2⟩))]]
  have accepted : Program.ofSource source = .ok statements := by cbv
  have fails : (execute statements (.global (.ofList [("a", .boolean true)])) false none).result =
      .error (.error ⟨.operands "less than" .boolean .nil, less⟩) := by rfl
  refine ⟨statements, accepted, fails, ?_⟩
  rcases runtime_errors_are_in_source accepted (.ofList [("a", .boolean true)]) false with
    ⟨value, succeeds⟩ | ⟨error, stops, listed, -, high, -⟩
  · cases fails.symm.trans succeeds
  · cases fails.symm.trans stops
    exact ⟨listed, high⟩

end Scriptlet
