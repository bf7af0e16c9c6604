import Scriptlet.Scan
import Scriptlet.Syntax.Recovery

/-! Programs from source text. What is wrong with a text is reported as it is found, and returned. -/
namespace Scriptlet

inductive ParseMode
  | collect
  | failFast
deriving DecidableEq, Repr

def ParseMode.parse : ParseMode → List Token → List Stmt × List SyntaxError
  | collect, tokens => readAll tokens
  | failFast, tokens =>
    match readStrict tokens with
    | .ok statements => (statements, [])
    | .error error => ([], [error])

namespace Program

section Reporting

variable {m : Type → Type} [Monad m] (reporter : Reporter m)

def tokenize (source : String) : m Scan := do
  let scanned := scan source
  scanned.errors.forM fun error => reporter error.diagnostic
  pure scanned

def parse (mode : ParseMode) (tokens : List Token) : m (List Stmt × List SyntaxError) := do
  let parsed := mode.parse tokens
  parsed.2.forM fun error => reporter error.diagnostic
  pure parsed

/-- The statements of a source text without errors, or all its diagnostics: lexical errors first, then
syntax errors, each kind in the order of the text. -/
def read (source : String) : m (Except (List Diagnostic) (List Stmt)) := do
  let scanned ← tokenize reporter source
  let (statements, errors) ← parse reporter .collect scanned.tokens
  let found := scanned.errors.map (·.diagnostic) ++ errors.map (·.diagnostic)
  pure (if found.isEmpty then .ok statements else .error found)

end Reporting

def ofSource (source : String) : Except (List Diagnostic) (List Stmt) :=
  Id.run (read Reporter.discard source)

end Program

end Scriptlet
