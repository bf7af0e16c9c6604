import Mathlib.Data.Int.ModEq
import Scriptlet.Evaluation
import Scriptlet.Proofs.Sequencing

/-! Integers that wrap around. Sums, differences, products and signs may leave the range of integers at any
node of an expression and come back at another; in the end it is as if the expression had been worked out
over all integers and wrapped around once. Quotients are another matter: they go toward zero, and only one of
them leaves the range. -/
namespace Scriptlet

/-- The number that an expression of integers stands for, worked out over all integers. There is one for
literals, names bound to integers, and what signs, sums, differences, products and parentheses make of
them. -/
inductive Expr.Exact (environment : Environment) : Expr → Int → Prop
  | literal {token : Token} {value : Int64} : Exact environment (.integer token value) value.toInt
  | name {name : Token} {value : Int64}
      (bound : environment.lookup? name.lexeme = some (.integer value)) :
      Exact environment (.reference name) value.toInt
  | grouping {paren : Token} {inner : Expr} {number : Int} (exact : Exact environment inner number) :
      Exact environment (.grouping paren inner) number
  | negation {operator : Token} {operand : Expr} {number : Int} (sign : operator.kind = .minus)
      (exact : Exact environment operand number) : Exact environment (.unary operator operand) (-number)
  | sum {operator : Token} {left right : Expr} {first second : Int} (sign : operator.kind = .plus)
      (onLeft : Exact environment left first) (onRight : Exact environment right second) :
      Exact environment (.binary left operator right) (first + second)
  | difference {operator : Token} {left right : Expr} {first second : Int}
      (sign : operator.kind = .minus) (onLeft : Exact environment left first)
      (onRight : Exact environment right second) :
      Exact environment (.binary left operator right) (first - second)
  | product {operator : Token} {left right : Expr} {first second : Int} (sign : operator.kind = .star)
      (onLeft : Exact environment left first) (onRight : Exact environment right second) :
      Exact environment (.binary left operator right) (first * second)

/-! Operators on operands that are known. -/

section Operands

variable {start between after : Environment} {operator : Token} {left right operand : Expr}

theorem evaluate_unary {operation : UnaryOperator} {value : Value}
    (named : UnaryOperator.ofKind? operator.kind = some operation)
    (evaluates : operand.evaluate start = .ok value after) :
    (Expr.unary operator operand).evaluate start =
      Evaluation.applied operator (operation.apply value) after := by
  rw [Expr.evaluate, bind_of_ok _ evaluates, named]

theorem evaluate_binary {operation : BinaryOperator} {first second : Value}
    (named : BinaryOperator.ofKind? operator.kind = some operation)
    (onLeft : left.evaluate start = .ok first between)
    (onRight : right.evaluate between = .ok second after) :
    (Expr.binary left operator right).evaluate start =
      Evaluation.applied operator (operation.apply first second) after := by
  rw [Expr.evaluate, bind_of_ok _ onLeft, bind_of_ok _ onRight, named]

theorem evaluate_arithmetic {operation : Arithmetic} {first second : Int64}
    (named : BinaryOperator.ofKind? operator.kind = some (.arithmetic operation))
    (whole : operation ≠ .divide) (onLeft : left.evaluate start = .ok (.integer first) between)
    (onRight : right.evaluate between = .ok (.integer second) after) :
    (Expr.binary left operator right).evaluate start =
      .ok (.integer (operation.onIntegers first second)) after := by
  have applies : operation.apply (.integer first) (.integer second) =
      .ok (.integer (operation.onIntegers first second)) := by
    simp [Arithmetic.apply, whole]
  rw [evaluate_binary named onLeft onRight, BinaryOperator.apply, applies]
  rfl

theorem evaluate_quotient {first second : Int64} (sign : operator.kind = .slash)
    (onLeft : left.evaluate start = .ok (.integer first) between)
    (onRight : right.evaluate between = .ok (.integer second) after) :
    (Expr.binary left operator right).evaluate start =
      if second = 0 then .error ⟨.divisionByZero, operator⟩ after
      else .ok (.integer (first / second)) after := by
  have named : BinaryOperator.ofKind? operator.kind = some (.arithmetic .divide) := by rw [sign]; rfl
  rw [evaluate_binary named onLeft onRight, BinaryOperator.apply]
  by_cases zero : second = 0
  · simp only [Arithmetic.apply, zero, and_self, if_true]
    rfl
  · simp only [Arithmetic.apply, zero, and_false, if_false]
    rfl

end Operands

/-! Wrapping around. -/

theorem Expr.Exact.evaluate {environment : Environment} {expr : Expr} {number : Int}
    (exact : expr.Exact environment number) :
    expr.evaluate environment = .ok (.integer (.ofInt number)) environment := by
  -- Wrapping around goes well with every operator but division, so it may as well be left to the end.
  induction exact with
  | @literal token value =>
    rw [Int64.ofInt_toInt]
    rfl
  | @name name value bound =>
    rw [Int64.ofInt_toInt, Expr.evaluate, Evaluation.get, bound]
  | grouping _ ih => exact ih
  | negation sign _ ih =>
    have named := congrArg UnaryOperator.ofKind? sign
    rw [evaluate_unary named ih, Int64.ofInt_neg]
    rfl
  | sum sign _ _ onLeft onRight =>
    have named := congrArg BinaryOperator.ofKind? sign
    rw [evaluate_arithmetic named (by decide) onLeft onRight, Int64.ofInt_add]
    rfl
  | difference sign _ _ onLeft onRight =>
    have named := congrArg BinaryOperator.ofKind? sign
    rw [evaluate_arithmetic named (by decide) onLeft onRight, Int64.ofInt_sub]
    rfl
  | product sign _ _ onLeft onRight =>
    have named := congrArg BinaryOperator.ofKind? sign
    rw [evaluate_arithmetic named (by decide) onLeft onRight, Int64.ofInt_mul]
    rfl

theorem toInt_ofInt_modEq (number : Int) : (Int64.ofInt number).toInt ≡ number [ZMOD 2 ^ 64] := by
  rw [Int64.toInt_ofInt]
  exact Int.bmod_emod

/-- Only the least integer divided by minus one leaves the range, and comes back to where it was. -/
theorem toInt_quotient (first second : Int64) :
    (first / second).toInt =
      if first.toInt = -2 ^ 63 ∧ second.toInt = -1 then -2 ^ 63 else first.toInt.tdiv second.toInt := by
  by_cases leaves : first.toInt = -2 ^ 63 ∧ second.toInt = -1
  · have isLeast : first = .minValue := Int64.toInt_inj.mp leaves.1
    have isMinusOne : second = -1 := Int64.toInt_inj.mp leaves.2
    subst isLeast isMinusOne
    decide
  · rw [if_neg leaves]
    by_cases isLeast : first = .minValue
    · apply Int64.toInt_div_of_ne_right
      rintro rfl
      exact leaves ⟨by rw [isLeast]; rfl, rfl⟩
    · exact Int64.toInt_div_of_ne_left first second isLeast

/-- An expression of integers evaluates to its number, wrapped around into the range. An integer divided by
another goes toward zero, but for the one quotient that wraps around, and fails exactly if the other is
zero. -/
theorem integers_wrap_once (environment : Environment) :
    (∀ (expr : Expr) (number : Int), expr.Exact environment number →
      ∃ value : Int64, expr.evaluate environment = .ok (.integer value) environment ∧
        value.toInt ≡ number [ZMOD 2 ^ 64] ∧ -2 ^ 63 ≤ value.toInt ∧ value.toInt < 2 ^ 63) ∧
    ∀ (left right : Expr) (operator : Token) (first second : Int64) (between after : Environment),
      operator.kind = .slash → left.evaluate environment = .ok (.integer first) between →
      right.evaluate between = .ok (.integer second) after →
      (second ≠ 0 → ∃ quotient : Int64,
        (Expr.binary left operator right).evaluate environment = .ok (.integer quotient) after ∧
        quotient.toInt = if first.toInt = -2 ^ 63 ∧ second.toInt = -1 then -2 ^ 63
          else first.toInt.tdiv second.toInt) ∧
      ((∃ error final, (Expr.binary left operator right).evaluate environment = .error error final ∧
        error.fault.code = "E_DIV_ZERO") ↔ second = 0) := by
  constructor
  · intro expr number exact
    exact ⟨_, exact.evaluate, toInt_ofInt_modEq number, Int64.le_toInt _, Int64.toInt_lt _⟩
  · intro left right operator first second between after sign onLeft onRight
    have evaluates := evaluate_quotient sign onLeft onRight
    constructor
    · intro nonzero
      rw [if_neg nonzero] at evaluates
      exact ⟨_, evaluates, toInt_quotient first second⟩
    · constructor
      · rintro ⟨error, final, fails, -⟩
        by_contra nonzero
        rw [evaluates, if_neg nonzero] at fails
        cases fails
      · intro zero
        rw [if_pos zero] at evaluates
        exact ⟨_, _, evaluates, rfl⟩

/-- The largest integer times itself, less the negation of the least one: every step leaves the range, and
what is left is the difference modulo `2 ^ 64`. The least integer divided by minus one is itself. -/
theorem integers_wrap_once_extremes :
    let environment : Environment := .global (.ofList [("least", .integer .minValue)])
    let sign (kind : TokenKind) : Token := ⟨kind, "", "", 1⟩
    let largest : Expr := .integer (sign .integer) .maxValue
    let least : Expr := .reference ⟨.identifier, "least", "", 1⟩
    let minusOne : Expr := .unary (sign .minus) (.integer (sign .integer) 1)
    let product : Expr := .binary largest (sign .star) largest
    let difference : Expr := .binary product (sign .minus) (.unary (sign .minus) least)
    let number : Int := Int64.maxValue.toInt * Int64.maxValue.toInt - -Int64.minValue.toInt
    difference.Exact environment number ∧
      (∃ value : Int64, difference.evaluate environment = .ok (.integer value) environment ∧
        value.toInt ≡ number [ZMOD 2 ^ 64] ∧ -2 ^ 63 ≤ value.toInt ∧ value.toInt < 2 ^ 63) ∧
      least.evaluate environment = .ok (.integer .minValue) environment ∧
      minusOne.evaluate environment = .ok (.integer (-1)) environment ∧
      ∃ quotient : Int64, (Expr.binary least (sign .slash) minusOne).evaluate environment =
        .ok (.integer quotient) environment ∧ quotient.toInt = -2 ^ 63 := by
  intro environment sign largest least minusOne product difference number
  have exact : difference.Exact environment number :=
    .difference rfl (.product rfl .literal .literal) (.negation rfl (.name rfl))
  have isLeast : least.evaluate environment = .ok (.integer .minValue) environment := rfl
  have isMinusOne : minusOne.evaluate environment = .ok (.integer (-1)) environment := rfl
  obtain ⟨wraps, divides⟩ := integers_wrap_once environment
  obtain ⟨quotient, evaluates, goesBack⟩ :=
    (divides least minusOne (sign .slash) _ _ _ _ rfl isLeast isMinusOne).1 (by decide)
  exact ⟨exact, wraps difference number exact, isLeast, isMinusOne, quotient, evaluates, goesBack⟩

end Scriptlet
