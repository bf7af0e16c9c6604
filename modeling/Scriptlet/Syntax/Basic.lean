import Scriptlet.Token

/-! Programs as trees: expressions and statements, each node with the token it is reported at. A tree
built by hand may have holes, where a node is missing; a program that was read has none. -/
namespace Scriptlet

inductive Expr
  | integer (token : Token) (value : Int64)
  | float (token : Token) (value : Float)
  | string (token : Token) (value : ByteString)
  | boolean (token : Token) (value : Bool)
  | nil (token : Token)
  | reference (name : Token)
  | assign (name : Token) (value : Expr)
  | unary (operator : Token) (operand : Expr)
  | binary (left : Expr) (operator : Token) (right : Expr)
  | grouping (paren : Token) (inner : Expr)
  | hole

inductive Stmt
  | expression (value : Expr)
  | print (keyword : Token) (value : Expr)
  | letIn (name : Token) (initializer : Expr)
  | block (brace : Token) (body : List Stmt)
  | hole

instance : Inhabited Expr := ⟨.hole⟩

instance : Inhabited Stmt := ⟨.hole⟩

namespace Expr

def kindName : Expr → String
  | integer .. => "IntLiteral"
  | float .. => "FloatLiteral"
  | string .. => "StrLiteral"
  | boolean .. => "BoolLiteral"
  | nil .. => "NilLiteral"
  | reference .. => "Variable"
  | assign .. => "Assign"
  | unary .. => "Unary"
  | binary .. => "Binary"
  | grouping .. => "Grouping"
  | hole => ""

def line : Expr → Int
  | integer token _ => token.line
  | float token _ => token.line
  | string token _ => token.line
  | boolean token _ => token.line
  | nil token => token.line
  | reference name => name.line
  | assign name _ => name.line
  | unary operator _ => operator.line
  | binary _ operator _ => operator.line
  | grouping paren _ => paren.line
  | hole => 0

def nodes (expr : Expr) : List (String × Int) :=
  match expr with
  | assign _ value => (expr.kindName, expr.line) :: value.nodes
  | unary _ operand => (expr.kindName, expr.line) :: operand.nodes
  | binary left _ right => (expr.kindName, expr.line) :: (left.nodes ++ right.nodes)
  | grouping _ inner => (expr.kindName, expr.line) :: inner.nodes
  | hole => []
  | _ => [(expr.kindName, expr.line)]

end Expr

namespace Stmt

def kindName : Stmt → String
  | expression .. => "ExpressionStmt"
  | print .. => "PrintStmt"
  | letIn .. => "LetStmt"
  | block .. => "BlockStmt"
  | hole => ""

def line : Stmt → Int
  | expression value => value.line
  | print keyword _ => keyword.line
  | letIn name _ => name.line
  | block brace _ => brace.line
  | hole => 0

mutual

def nodes (stmt : Stmt) : List (String × Int) :=
  match stmt with
  | expression value => (stmt.kindName, stmt.line) :: value.nodes
  | print _ value => (stmt.kindName, stmt.line) :: value.nodes
  | letIn _ initializer => (stmt.kindName, stmt.line) :: initializer.nodes
  | block _ body => (stmt.kindName, stmt.line) :: allNodes body
  | hole => []

def allNodes : List Stmt → List (String × Int)
  | [] => []
  | stmt :: rest => stmt.nodes ++ allNodes rest

end

end Stmt

end Scriptlet
