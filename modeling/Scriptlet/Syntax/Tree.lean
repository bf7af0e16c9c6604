import Scriptlet.Syntax.Spelling
import Scriptlet.Text.Quoted

/-! Tree dumps: every statement on a line of its own, every node in brackets after its name. -/
namespace Scriptlet

namespace Expr

def tree : Expr → String
  | integer _ value => Spelling.integer value
  | float _ value => Spelling.float value
  | string token value => if Spelling.isNumber token then token.lexeme.shown else value.quote
  | boolean _ value => Spelling.boolean value
  | nil _ => "nil"
  | reference name => name.lexeme.shown
  | assign name value => "(= " ++ name.lexeme.shown ++ " " ++ value.tree ++ ")"
  | grouping _ inner => "(group " ++ inner.tree ++ ")"
  | unary operator operand => "(" ++ operator.lexeme.shown ++ " " ++ operand.tree ++ ")"
  | binary left operator right =>
    "(" ++ operator.lexeme.shown ++ " " ++ left.tree ++ " " ++ right.tree ++ ")"
  | hole => "?"

end Expr

namespace Stmt

mutual

def tree : Stmt → String
  | print _ value => "(print " ++ value.tree ++ ")"
  | letIn name initializer => "(let " ++ name.lexeme.shown ++ " " ++ initializer.tree ++ ")"
  | expression value => "(expr " ++ value.tree ++ ")"
  | block _ body => "(block" ++ innerTrees body ++ ")"
  | hole => "(?)"

def innerTrees : List Stmt → String
  | [] => ""
  | stmt :: rest => " " ++ stmt.tree ++ innerTrees rest

end

end Stmt

def treeText (statements : List Stmt) : String :=
  String.join (statements.map fun stmt => stmt.tree ++ "\n")

end Scriptlet
