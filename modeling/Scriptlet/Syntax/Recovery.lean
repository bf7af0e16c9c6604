import Scriptlet.Syntax.Reading

/-! Reading on after an error: the rest of a broken statement is skipped, and what follows is read as if
nothing had happened, so that one pass finds every error. -/
namespace Scriptlet

structure Findings (α : Type) where
  found : α
  errors : List SyntaxError
  cursor : Cursor

namespace Recovery

def statementWords : List TokenKind :=
  [.classWord, .functionWord, .letWord, .forWord, .ifWord, .whileWord, .printWord, .returnWord]

def skip (last : Token) : List Token → Token × List Token
  | [] => (last, [])
  | token :: rest =>
    if last.kind = .semicolon || statementWords.contains token.kind then (last, token :: rest)
    else skip token rest

/-- Drops one token in any case, then skips to where a statement may start. -/
def synchronize (cursor : Cursor) : Cursor :=
  match cursor.ahead with
  | [] => cursor
  | token :: rest =>
    let (last, ahead) := skip token rest
    { cursor with last, ahead }

def settle (outcome : EStateM.Result SyntaxError Cursor Stmt) : Findings (Option Stmt) :=
  match outcome with
  | .ok stmt after => ⟨some stmt, [], after⟩
  | .error error after => ⟨none, [error], synchronize after⟩

/-- All statements until the stop, with all errors on the way. Reading a statement takes a token even
when it fails, so the list comes to its end. -/
def statementsUntil (stop : Cursor → Bool) (item : Cursor → Findings (Option Stmt))
    (cursor : Cursor) : Findings (List Stmt) :=
  if cursor.atEnd || stop cursor then ⟨[], [], cursor⟩
  else
    let first := item cursor
    if first.cursor.ahead.length < cursor.ahead.length then
      let rest := statementsUntil stop item first.cursor
      ⟨first.found.toList ++ rest.found, first.errors ++ rest.errors, rest.cursor⟩
    else ⟨first.found.toList, first.errors, first.cursor⟩
termination_by cursor.ahead.length

def statement (room : Nat) (cursor : Cursor) : Findings (Option Stmt) :=
  if cursor.sees [.leftBrace] then
    match room with
    | 0 => settle (Reader.failNext .blockTooDeep cursor.advance)
    | room + 1 =>
      let body := statementsUntil Reader.closesBlock (statement room) cursor.advance
      if Reader.closesBlock body.cursor then
        ⟨some (.block cursor.next body.found), body.errors, body.cursor.advance⟩
      else
        let missing := settle (Reader.failNext .braceAfterBlock body.cursor)
        { missing with errors := body.errors ++ missing.errors }
  else settle (Reader.simpleStatement room cursor)

end Recovery

def readAll (tokens : List Token) : List Stmt × List SyntaxError :=
  let findings := Recovery.statementsUntil (fun _ => false) (Recovery.statement maxNesting)
    (.ofTokens tokens)
  (findings.found, findings.errors)

end Scriptlet
