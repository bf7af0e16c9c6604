import Scriptlet.Syntax.Cursor
import Scriptlet.Syntax.Literal

/-! Reading statements from tokens, up to the first error. `room` is how many more levels may be opened:
an operator, a sign, an assignment, a pair of parentheses and a block each take one, and what
is read inside has one less. -/
namespace Scriptlet.Reader

/-- The binary operators, those that bind loosest first. -/
def tiers : List (List TokenKind) :=
  [[.bangEqual, .equalEqual],
   [.greater, .greaterEqual, .less, .lessEqual],
   [.minus, .plus],
   [.slash, .star]]

def atom? (token : Token) : Option Expr :=
  match token.kind with
  | .falseWord => some (.boolean token false)
  | .trueWord => some (.boolean token true)
  | .nilWord => some (.nil token)
  | .integer => some (.ofLiteral token token.literal)
  | .float => some (.ofLiteral token token.literal)
  | .string => some (.string token token.literal)
  | .identifier => some (.reference token)
  | _ => none

mutual

def expression (room : Nat) : Reader Expr :=
  match room with
  | 0 => failNext .expressionTooDeep
  | room + 1 => assignment room
termination_by (room, 0)

/-- A name, an equals sign and a value; the target is looked at only after the value is read. -/
def assignment (room : Nat) : Reader Expr := do
  let target ← operation tiers room
  match ← accept? [.equal] with
  | none => pure target
  | some equals =>
    match room with
    | 0 => failNext .expressionTooDeep
    | room + 1 =>
      let value ← assignment room
      match target with
      | .reference name => pure (.assign name value)
      | _ => failAt equals .assignmentTarget
termination_by (room, tiers.length + 4)

def operation (levels : List (List TokenKind)) (room : Nat) : Reader Expr :=
  match levels with
  | [] => unary room
  | operators :: tighter => do
    let left ← operation tighter room
    chain operators tighter room left
termination_by (room, levels.length + 3)

/-- A chain of one tier leans left, so that each of its operators opens a level over those before. -/
def chain (operators : List TokenKind) (tighter : List (List TokenKind)) (room : Nat)
    (left : Expr) : Reader Expr := do
  match ← accept? operators with
  | none => pure left
  | some operator =>
    match room with
    | 0 => failNext .expressionTooDeep
    | room + 1 =>
      let right ← operation tighter room
      chain operators tighter room (.binary left operator right)
termination_by (room, 0)

def unary (room : Nat) : Reader Expr := do
  match ← accept? [.bang, .minus] with
  | none => primary room
  | some operator =>
    match room with
    | 0 => failNext .expressionTooDeep
    | room + 1 =>
      let operand ← unary room
      pure (.unary operator operand)
termination_by (room, 2)

def primary (room : Nat) : Reader Expr := fun cursor =>
  match cursor.ahead with
  | [] => failNext .expression cursor
  | token :: _ =>
    match atom? token with
    | some expr => .ok expr cursor.advance
    | none =>
      if token.kind = .leftParen then
        (do
          let inner ← expression room
          let _ ← expect .rightParen .parenAfterExpression
          pure (Expr.grouping token inner)) cursor.advance
      else failNext .expression cursor
termination_by (room, 1)

end

/-- A declaration after its keyword. A missing semicolon is reported at the token before. -/
def letStatement (room : Nat) : Reader Stmt := do
  let name ← expect .identifier .variableName
  let initializer ← match ← accept? [.equal] with
    | some _ => expression room
    | none => pure (.nil name)
  match ← accept? [.semicolon] with
  | some _ => pure (.letIn name initializer)
  | none => failLast .semicolonAfterDeclaration

def printStatement (keyword : Token) (room : Nat) : Reader Stmt := do
  let value ← expression room
  let _ ← expect .semicolon .semicolonAfterValue
  pure (.print keyword value)

def expressionStatement (room : Nat) : Reader Stmt := do
  let value ← expression room
  let _ ← expect .semicolon .semicolonAfterExpression
  pure (.expression value)

def simpleStatement (room : Nat) : Reader Stmt := do
  match ← accept? [.letWord] with
  | some _ => letStatement room
  | none =>
    match ← accept? [.printWord] with
    | some keyword => printStatement keyword room
    | none => expressionStatement room

/-- Statements one after another until the stop. Each statement read takes a token, so the list
comes to its end. -/
def statementsUntil (stop : Cursor → Bool) (item : Reader Stmt) (cursor : Cursor) :
    EStateM.Result SyntaxError Cursor (List Stmt) :=
  if cursor.atEnd || stop cursor then .ok [] cursor
  else
    match item cursor with
    | .error error after => .error error after
    | .ok stmt after =>
      if after.ahead.length < cursor.ahead.length then
        match statementsUntil stop item after with
        | .error error last => .error error last
        | .ok rest last => .ok (stmt :: rest) last
      else .ok [stmt] after
termination_by cursor.ahead.length

def closesBlock (cursor : Cursor) : Bool := cursor.sees [.rightBrace]

def statement : Nat → Reader Stmt
  | 0 => do
    match ← accept? [.leftBrace] with
    | some _ => failNext .blockTooDeep
    | none => simpleStatement 0
  | room + 1 => do
    match ← accept? [.leftBrace] with
    | some brace =>
      let body ← statementsUntil closesBlock (statement room)
      let _ ← expect .rightBrace .braceAfterBlock
      pure (.block brace body)
    | none => simpleStatement (room + 1)

end Scriptlet.Reader

namespace Scriptlet

def maxNesting : Nat := 1000

def readStrict (tokens : List Token) : Except SyntaxError (List Stmt) :=
  match Reader.statementsUntil (fun _ => false) (Reader.statement maxNesting) (.ofTokens tokens) with
  | .ok statements _ => .ok statements
  | .error error _ => .error error

end Scriptlet
