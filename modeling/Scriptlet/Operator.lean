import Scriptlet.RuntimeError

/-! Operators on values. Operands must be of one kind; integers wrap around at 64 bits. -/
namespace Scriptlet

inductive Arithmetic
  | add
  | subtract
  | multiply
  | divide
deriving DecidableEq, Repr

namespace Arithmetic

def name : Arithmetic → String
  | add => "addition"
  | subtract => "subtraction"
  | multiply => "multiplication"
  | divide => "division"

/-- Integer division goes toward zero. -/
def onIntegers : Arithmetic → Int64 → Int64 → Int64
  | add, left, right => left + right
  | subtract, left, right => left - right
  | multiply, left, right => left * right
  | divide, left, right => left / right

def onFloats : Arithmetic → Float → Float → Float
  | add, left, right => left + right
  | subtract, left, right => left - right
  | multiply, left, right => left * right
  | divide, left, right => left / right

/-- Addition also joins strings; division by zero is a fault of integers and floats alike. -/
def apply (operation : Arithmetic) (left right : Value) : Except RuntimeFault Value :=
  match left, right with
  | .integer a, .integer b =>
    if operation = divide ∧ b = 0 then .error .divisionByZero
    else .ok (.integer (operation.onIntegers a b))
  | .float a, .float b =>
    if operation = divide ∧ b == 0 then .error .divisionByZero
    else .ok (.float (operation.onFloats a b))
  | .string a, .string b =>
    if operation = add then .ok (.string (a ++ b))
    else .error (.operands operation.name left.kind right.kind)
  | _, _ => .error (.operands operation.name left.kind right.kind)

end Arithmetic

inductive Comparison
  | greater
  | greaterEqual
  | less
  | lessEqual
deriving DecidableEq, Repr

namespace Comparison

def name : Comparison → String
  | greater => "greater than"
  | greaterEqual => "greater than or equal"
  | less => "less than"
  | lessEqual => "less than or equal"

def onIntegers : Comparison → Int64 → Int64 → Bool
  | greater, left, right => right < left
  | greaterEqual, left, right => right ≤ left
  | less, left, right => left < right
  | lessEqual, left, right => left ≤ right

def onFloats : Comparison → Float → Float → Bool
  | greater, left, right => right < left
  | greaterEqual, left, right => right ≤ left
  | less, left, right => left < right
  | lessEqual, left, right => left ≤ right

def apply (comparison : Comparison) (left right : Value) : Except RuntimeFault Value :=
  match left, right with
  | .integer a, .integer b => .ok (.boolean (comparison.onIntegers a b))
  | .float a, .float b => .ok (.boolean (comparison.onFloats a b))
  | _, _ => .error (.operands comparison.name left.kind right.kind)

end Comparison

namespace Value

/-- Equality of two values of one kind; nil equals nothing, not even nil. -/
def equal? : Value → Value → Option Bool
  | .boolean a, .boolean b => some (a == b)
  | .integer a, .integer b => some (a == b)
  | .float a, .float b => some (a == b)
  | .string a, .string b => some (a == b)
  | _, _ => none

end Value

inductive BinaryOperator
  | arithmetic (operation : Arithmetic)
  | comparison (operation : Comparison)
  | equal
  | unequal
deriving DecidableEq, Repr

namespace BinaryOperator

def ofKind? : TokenKind → Option BinaryOperator
  | .plus => some (.arithmetic .add)
  | .minus => some (.arithmetic .subtract)
  | .star => some (.arithmetic .multiply)
  | .slash => some (.arithmetic .divide)
  | .greater => some (.comparison .greater)
  | .greaterEqual => some (.comparison .greaterEqual)
  | .less => some (.comparison .less)
  | .lessEqual => some (.comparison .lessEqual)
  | .equalEqual => some .equal
  | .bangEqual => some .unequal
  | _ => none

def apply (operator : BinaryOperator) (left right : Value) : Except RuntimeFault Value :=
  match operator with
  | arithmetic operation => operation.apply left right
  | comparison operation => operation.apply left right
  | equal =>
    match left.equal? right with
    | some same => .ok (.boolean same)
    | none => .error .equality
  | unequal =>
    match left.equal? right with
    | some same => .ok (.boolean !same)
    | none => .error .inequality

end BinaryOperator

inductive UnaryOperator
  | negate
  | not
deriving DecidableEq, Repr

namespace UnaryOperator

def ofKind? : TokenKind → Option UnaryOperator
  | .minus => some .negate
  | .bang => some .not
  | _ => none

def apply (operator : UnaryOperator) (operand : Value) : Except RuntimeFault Value :=
  match operator with
  | not => .ok (.boolean !operand.isTrue)
  | negate =>
    match operand with
    | .integer value => .ok (.integer (-value))
    | .float value => .ok (.float (-value))
    | _ => .error .negation

end UnaryOperator

end Scriptlet
