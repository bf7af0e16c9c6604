import Scriptlet.Diagnostic
import Scriptlet.Token
import Scriptlet.Value.Basic

/-! Errors of running programs. -/
namespace Scriptlet

inductive RuntimeFault
  | undefined (name : ByteString)
  | operands (operation : String) (left right : Kind)
  | equality
  | inequality
  | negation
  | divisionByZero
  | unaryOperator
  | binaryOperator
  | missingExpression
  | missingStatement
deriving DecidableEq, Repr

namespace RuntimeFault

def code : RuntimeFault → String
  | undefined _ => "E_UNDEFINED"
  | operands .. => "E_TYPE"
  | equality => "E_TYPE"
  | inequality => "E_TYPE"
  | negation => "E_TYPE"
  | divisionByZero => "E_DIV_ZERO"
  | unaryOperator => "E_INTERNAL"
  | binaryOperator => "E_INTERNAL"
  | missingExpression => "E_INTERNAL"
  | missingStatement => "E_INTERNAL"

def message : RuntimeFault → ByteString
  | undefined name => "Undefined variable '" ++ name ++ "'."
  | operands operation left right =>
    s!"Invalid operands for {operation}: {left.name} and {right.name}."
  | equality => "Invalid operands for equality."
  | inequality => "Invalid operands for inequality."
  | negation => "Invalid operand for unary minus."
  | divisionByZero => "Division by zero."
  | unaryOperator => "Invalid unary operator."
  | binaryOperator => "Invalid binary operator."
  | missingExpression => "unsupported expression type: <nil>"
  | missingStatement => "unsupported statement type: <nil>"

end RuntimeFault

structure RuntimeError where
  fault : RuntimeFault
  token : Token
deriving DecidableEq, Repr

namespace RuntimeError

def diagnostic (error : RuntimeError) : Diagnostic :=
  ⟨error.fault.code, error.fault.message, error.token.line, ""⟩

def undefined (name : Token) : RuntimeError :=
  ⟨.undefined name.lexeme, name⟩

end RuntimeError

end Scriptlet
