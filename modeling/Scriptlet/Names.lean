import Scriptlet.Diagnostic
import Scriptlet.Syntax.Basic

/-! Checking names without running: every read or assignment of a name that no earlier declaration in
an enclosing scope declares, in the order in which a run would come to them. -/
namespace Scriptlet

def Expr.unknownNames (known : List ByteString) : Expr → List Token
  | reference name => if known.contains name.lexeme then [] else [name]
  | assign name value =>
    value.unknownNames known ++ (if known.contains name.lexeme then [] else [name])
  | binary left _ right => left.unknownNames known ++ right.unknownNames known
  | unary _ operand => operand.unknownNames known
  | grouping _ inner => inner.unknownNames known
  | _ => []

namespace Stmt

/-- The names known after a statement. What a block declares is known only inside it. -/
def extend (known : List ByteString) : Stmt → List ByteString
  | letIn name _ => name.lexeme :: known
  | _ => known

mutual

def unknownNames (known : List ByteString) : Stmt → List Token
  | letIn _ initializer => initializer.unknownNames known
  | print _ value => value.unknownNames known
  | expression value => value.unknownNames known
  | block _ body => allUnknownNames known body
  | hole => []

def allUnknownNames (known : List ByteString) : List Stmt → List Token
  | [] => []
  | stmt :: rest => stmt.unknownNames known ++ allUnknownNames (stmt.extend known) rest

end

end Stmt

def undefinedName (name : Token) : Diagnostic :=
  ⟨"E_UNDEFINED", "Undefined variable '" ++ name.lexeme ++ "'.", name.line, ""⟩

def checkNames (statements : List Stmt) (bound : List ByteString) : List Diagnostic :=
  (Stmt.allUnknownNames bound statements).map undefinedName

end Scriptlet
