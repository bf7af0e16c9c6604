import Scriptlet.Syntax.Spelling

/-! Laying statements out as source text in the one canonical way: one statement a line, two spaces for
each block, parentheses where the tree has them and where its shape needs them. -/
namespace Scriptlet

/-- How tightly an operator binds; a token that is none binds loosest. -/
def TokenKind.tightness : TokenKind → Nat
  | .equalEqual | .bangEqual => 1
  | .greater | .greaterEqual | .less | .lessEqual => 2
  | .plus | .minus => 3
  | .star | .slash => 4
  | _ => 0

namespace Expr

def isBinary : Expr → Bool
  | binary .. => true
  | _ => false

def needsParensLeft (operator : TokenKind) : Expr → Bool
  | binary _ inner _ => inner.kind.tightness < operator.tightness
  | _ => false

/-- An operand to the right of an operator that binds as tightly as its own, or tighter. -/
def needsParensRight (operator : TokenKind) : Expr → Bool
  | binary _ inner _ => inner.kind.tightness ≤ operator.tightness
  | _ => false

def parenthesized (needed : Bool) (text : String) : String :=
  if needed then "(" ++ text ++ ")" else text

/-- A string between double quotes, or between the delimiters that admit quotes and line breaks. -/
def delimited (value : String) : String :=
  if value.toList.any fun c => c == '"' || c == '\n' then "\x60" ++ value ++ "\x60"
  else "\"" ++ value ++ "\""

def layout : Expr → String
  | integer _ value => Spelling.integer value
  | float _ value => Spelling.float value
  | string token value => if Spelling.isNumber token then token.lexeme.shown else delimited value.shown
  | boolean _ value => Spelling.boolean value
  | nil _ => "nil"
  | reference name => name.lexeme.shown
  | assign name value => name.lexeme.shown ++ " = " ++ value.layout
  | grouping _ inner => "(" ++ inner.layout ++ ")"
  | unary operator operand => operator.lexeme.shown ++ parenthesized operand.isBinary operand.layout
  | binary left operator right =>
    parenthesized (left.needsParensLeft operator.kind) left.layout ++ " " ++ operator.lexeme.shown ++ " "
      ++ parenthesized (right.needsParensRight operator.kind) right.layout
  | hole => "nil"

/-- The value of a declaration without one stands at the declared name. -/
def isImplicitNil : Expr → Bool
  | nil token => token.kind == .identifier
  | _ => false

end Expr

namespace Stmt

def indentation (depth : Nat) : String :=
  String.ofList (List.replicate (2 * depth) ' ')

mutual

def layout (depth : Nat) : Stmt → String
  | print _ value => indentation depth ++ "print " ++ value.layout ++ ";"
  | letIn name initializer =>
    if initializer.isImplicitNil then indentation depth ++ "let " ++ name.lexeme.shown ++ ";"
    else indentation depth ++ "let " ++ name.lexeme.shown ++ " = " ++ initializer.layout ++ ";"
  | expression value => indentation depth ++ value.layout ++ ";"
  | block _ [] => indentation depth ++ "\x7b\x7d"
  | block _ (first :: rest) =>
    indentation depth ++ "\x7b\n" ++ layout (depth + 1) first ++ "\n" ++ layoutLines (depth + 1) rest
      ++ indentation depth ++ "\x7d"
  | hole => indentation depth ++ "# unknown statement"

def layoutLines (depth : Nat) : List Stmt → String
  | [] => ""
  | stmt :: rest => layout depth stmt ++ "\n" ++ layoutLines depth rest

end

end Stmt

def sourceText (statements : List Stmt) : String :=
  Stmt.layoutLines 0 statements

end Scriptlet
