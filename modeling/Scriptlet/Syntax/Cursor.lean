import Scriptlet.Diagnostic
import Scriptlet.Token

/-! A position in a token list, the errors that reading can meet there, and the steps every reader is
made of. -/
namespace Scriptlet

inductive SyntaxFault
  | variableName
  | semicolonAfterDeclaration
  | semicolonAfterValue
  | semicolonAfterExpression
  | braceAfterBlock
  | parenAfterExpression
  | expression
  | assignmentTarget
  | expressionTooDeep
  | blockTooDeep
deriving DecidableEq, Repr

def SyntaxFault.message : SyntaxFault → String
  | variableName => "Expect variable name."
  | semicolonAfterDeclaration => "Expect ';' after variable declaration."
  | semicolonAfterValue => "Expect ';' after value."
  | semicolonAfterExpression => "Expect ';' after expression."
  | braceAfterBlock => "Expect '\x7d' after block."
  | parenAfterExpression => "Expect ')' after expression."
  | expression => "Expect expression."
  | assignmentTarget => "Invalid assignment target."
  | expressionTooDeep => "Expression nesting too deep."
  | blockTooDeep => "Block nesting too deep."

/-- An error at a token. It is truncated when nothing was left to read, wherever the token stands. -/
structure SyntaxError where
  token : Token
  fault : SyntaxFault
  truncated : Bool
deriving DecidableEq, Repr

namespace SyntaxError

def atEnd (error : SyntaxError) : Bool := error.token.isEnd

def diagnostic (error : SyntaxError) : Diagnostic :=
  ⟨"E_PARSE", error.fault.message, error.token.line,
    if error.atEnd then Diagnostic.atEnd else Diagnostic.atLexeme error.token.lexeme⟩

end SyntaxError

/-- A position in a token list: the token just passed, those ahead, and the one that ends the list. -/
structure Cursor where
  last : Token
  ahead : List Token
  final : Token
deriving DecidableEq, Repr

namespace Cursor

/-- The start of a list. The list ends at its first end-of-input token; a list without one gets one
on the line of its last token. -/
def ofTokens (tokens : List Token) : Cursor :=
  let ahead := tokens.takeWhile fun token => !token.isEnd
  let final := match tokens.dropWhile fun token => !token.isEnd with
    | final :: _ => final
    | [] => .endOfInput ((tokens.getLast?.map (·.line)).getD 1)
  ⟨ahead.headD final, ahead, final⟩

def atEnd (cursor : Cursor) : Bool := cursor.ahead.isEmpty

def next (cursor : Cursor) : Token := cursor.ahead.headD cursor.final

def advance (cursor : Cursor) : Cursor :=
  match cursor.ahead with
  | [] => cursor
  | token :: rest => { cursor with last := token, ahead := rest }

def sees (cursor : Cursor) (kinds : List TokenKind) : Bool :=
  match cursor.ahead with
  | [] => false
  | token :: _ => kinds.contains token.kind

def errorAt (cursor : Cursor) (token : Token) (fault : SyntaxFault) : SyntaxError :=
  ⟨token, fault, cursor.atEnd⟩

end Cursor

abbrev Reader := EStateM SyntaxError Cursor

namespace Reader

def failAt {α : Type} (token : Token) (fault : SyntaxFault) : Reader α := fun cursor =>
  .error (cursor.errorAt token fault) cursor

def failNext {α : Type} (fault : SyntaxFault) : Reader α := fun cursor =>
  .error (cursor.errorAt cursor.next fault) cursor

def failLast {α : Type} (fault : SyntaxFault) : Reader α := fun cursor =>
  .error (cursor.errorAt cursor.last fault) cursor

def accept? (kinds : List TokenKind) : Reader (Option Token) := fun cursor =>
  if cursor.sees kinds then .ok (some cursor.next) cursor.advance else .ok none cursor

def expect (kind : TokenKind) (fault : SyntaxFault) : Reader Token := do
  match ← accept? [kind] with
  | some token => pure token
  | none => failNext fault

end Reader

end Scriptlet
