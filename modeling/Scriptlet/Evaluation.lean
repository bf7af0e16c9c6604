import Scriptlet.Operator
import Scriptlet.Scope
import Scriptlet.Syntax.Basic

/-! Evaluating expressions. Operands are evaluated left to right, all of them, before their operator;
an assignment made on the way stays made when a later part fails. -/
namespace Scriptlet

abbrev Evaluation := EStateM RuntimeError Environment

namespace Evaluation

def fail {α : Type} (fault : RuntimeFault) (token : Token) : Evaluation α :=
  throw ⟨fault, token⟩

def applied (operator : Token) (result : Except RuntimeFault Value) : Evaluation Value :=
  match result with
  | .ok value => pure value
  | .error fault => fail fault operator

def get (name : Token) : Evaluation Value := fun environment =>
  match environment.lookup? name.lexeme with
  | some value => .ok value environment
  | none => .error (.undefined name) environment

def assign (name : Token) (value : Value) : Evaluation Unit := fun environment =>
  match environment.assign? name.lexeme value with
  | some changed => .ok () changed
  | none => .error (.undefined name) environment

end Evaluation

def Expr.evaluate : Expr → Evaluation Value
  | integer _ value => pure (.integer value)
  | float _ value => pure (.float value)
  | string _ value => pure (.string value)
  | boolean _ value => pure (.boolean value)
  | nil _ => pure .nil
  | reference name => Evaluation.get name
  | assign name expr => do
    let value ← expr.evaluate
    Evaluation.assign name value
    pure value
  | grouping _ inner => inner.evaluate
  | unary operator operand => do
    let value ← operand.evaluate
    match UnaryOperator.ofKind? operator.kind with
    | some operation => Evaluation.applied operator (operation.apply value)
    | none => Evaluation.fail .unaryOperator operator
  | binary left operator right => do
    let first ← left.evaluate
    let second ← right.evaluate
    match BinaryOperator.ofKind? operator.kind with
    | some operation => Evaluation.applied operator (operation.apply first second)
    | none => Evaluation.fail .binaryOperator operator
  | hole => Evaluation.fail .missingExpression .nowhere

end Scriptlet
