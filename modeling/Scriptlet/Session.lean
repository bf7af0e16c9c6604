import Scriptlet.Execution
import Scriptlet.Names
import Scriptlet.Program
import Scriptlet.Syntax.Layout

/-! Sessions: global bindings, a collector of diagnostics and error flags, kept across any number of
sources. -/
namespace Scriptlet

structure Settings where
  echo : Bool := false
  mode : ParseMode := .collect
  style : Diagnostic.Style := .text
  /-- Whether runs are recorded, and the name they are recorded under. -/
  tracing : Bool := false
  runId : String := "cli"
  /-- Whether anything listens to what programs write, and to what is reported. -/
  listening : Bool := true
  reporting : Bool := true

structure Session where
  settings : Settings
  globals : Scope
  collector : Collector
  hadError : Bool
  hadRuntimeError : Bool

inductive Failure
  | diagnostics (found : List Diagnostic)
  | runtime (error : RuntimeError)
  | cancelled

def Failure.message : Failure → ByteString
  | diagnostics found => Diagnostic.renderAll .text found
  | runtime error => error.diagnostic.toText
  | cancelled => "context canceled"

structure Effects where
  stdout : ByteString := ""
  stderr : ByteString := ""
  events : List Event := []

/-- What may cancel a run: it is looked at before each statement, with all that the run has done by then. -/
structure Context where
  interrupt : Run → Bool := Run.impatient
  patience : Option Nat := none

namespace Session

def new (settings : Settings) : Session :=
  { settings
    globals := .empty
    collector := { style := settings.style, listening := settings.reporting }
    hadError := false
    hadRuntimeError := false }

def environment (session : Session) : Environment :=
  .global session.globals

def reset (session : Session) : Session :=
  { session with hadError := false, hadRuntimeError := false }

def resetGlobals (session : Session) : Session :=
  { session with globals := .empty }

def define (session : Session) (name : ByteString) (value : Value) : Session :=
  { session with globals := session.globals.set name value }

def exitCode (session : Session) : Nat :=
  if session.hadError then 65 else if session.hadRuntimeError then 70 else 0

/-- A session in the middle of a call, and what the call has done so far. -/
structure Work where
  session : Session
  effects : Effects := {}

abbrev Action := StateM Work

def perform {α : Type} (session : Session) (action : Action α) : α × Session × Effects :=
  let (answer, work) := Id.run (StateT.run action { session })
  (answer, work.session, work.effects)

namespace Action

def update (change : Session → Session) : Action Unit :=
  modify fun work => { work with session := change work.session }

def write (text : ByteString) : Action Unit :=
  modify fun work => { work with effects.stdout := work.effects.stdout ++ text }

def complain (text : ByteString) : Action Unit :=
  modify fun work => { work with effects.stderr := work.effects.stderr ++ text }

def trace (events : List Event) : Action Unit :=
  modify fun work => { work with effects.events := work.effects.events ++ events }

def collect : Reporter Action := fun diagnostic => do
  let (collector, written) := (← get).session.collector.report diagnostic
  update fun session => { session with collector }
  complain written

/-- The statements of a source; its diagnostics are reported, and flagged if there are any. -/
def read (source : String) : Action (Except Failure (List Stmt)) := do
  update fun session => { session with collector := session.collector.reset }
  let scanned ← Program.tokenize collect source
  let (statements, _) ← Program.parse collect (← get).session.settings.mode scanned.tokens
  let collector := (← get).session.collector
  if collector.hasErrors then
    update fun session => { session with hadError := true }
    pure (.error (.diagnostics collector.found))
  else pure (.ok statements)

/-- Takes over what a run comes to; a runtime error is reported and flagged. -/
def conclude (report : RunReport) : Action (Except Failure Unit) := do
  let settings := (← get).session.settings
  update fun session => { session with globals := report.environment.inner }
  write (if settings.listening then report.output else "")
  trace (if settings.tracing then report.events else [])
  match report.result with
  | .ok _ => pure (.ok ())
  | .error .cancelled => pure (.error .cancelled)
  | .error (.error error) =>
    update fun session => { session with hadRuntimeError := true }
    complain (if settings.reporting then error.diagnostic.render settings.style ++ "\n" else "")
    pure (.error (.runtime error))

def execute (statements : List Stmt) (context : Context) : Action (Except Failure Unit) := do
  let session := (← get).session
  conclude (executeUntil context.interrupt statements session.environment session.settings.echo
    context.patience)

def run (source : String) (context : Context) : Action (Except Failure Unit) := do
  match ← read source with
  | .ok statements => execute statements context
  | .error failure => pure (.error failure)

def check (source : String) : Action (List Diagnostic) := do
  match ← Program.read Reporter.discard source with
  | .ok statements => pure (checkNames statements (← get).session.globals.names)
  | .error found => pure found

def format (source : String) : Action (Except Failure String) := do
  match ← Program.read Reporter.discard source with
  | .ok statements => pure (.ok (sourceText statements))
  | .error found => pure (.error (.diagnostics found))

end Action

def read (session : Session) (source : String) : Except Failure (List Stmt) × Session × Effects :=
  session.perform (Action.read source)

def execute (session : Session) (statements : List Stmt) (context : Context) :
    Except Failure Unit × Session × Effects :=
  session.perform (Action.execute statements context)

def run (session : Session) (source : String) (context : Context) :
    Except Failure Unit × Session × Effects :=
  session.perform (Action.run source context)

def check (session : Session) (source : String) : List Diagnostic × Session × Effects :=
  session.perform (Action.check source)

def format (session : Session) (source : String) : Except Failure String × Session × Effects :=
  session.perform (Action.format source)

end Session

def format (source : String) : Except (List Diagnostic) String :=
  (Program.ofSource source).map sourceText

/-- Whether a source stops partway through a construct, so that more text could complete it. -/
def isIncomplete (source : String) : Bool :=
  let scanned := scan source
  if scanned.errors.any fun error => error.cause.isOpen then true
  else if !scanned.errors.isEmpty then false
  else
    let errors := (readAll scanned.tokens).2
    !errors.isEmpty && errors.all fun error => error.atEnd || error.truncated

end Scriptlet
