import Scriptlet.Evaluation
import Scriptlet.Trace.Event

/-! Running statements. A run changes an environment, writes lines, and records what it does. It may be
cancelled from outside, which it notices before the next statement. -/
namespace Scriptlet

/-- The state of a run. `patience` is how many more lines may be written before the run is cancelled, if
it is to be cancelled at all; at 0 it is. -/
structure Run where
  environment : Environment
  written : List ByteString
  events : List Event
  completed : Nat
  patience : Option Nat

def Run.impatient (run : Run) : Bool := run.patience = some 0

inductive Stop
  | error (error : RuntimeError)
  | cancelled
deriving DecidableEq, Repr

abbrev Execution := EStateM Stop Run

namespace Execution

def record (event : Event) : Execution Unit :=
  modify fun run => { run with events := run.events ++ [event] }

def checkInterrupt (interrupt : Run → Bool) : Execution Unit := fun run =>
  if interrupt run then .error .cancelled run else .ok () run

/-- Evaluates in the run's environment, which keeps what was assigned even when evaluation fails. -/
def evaluate (expr : Expr) : Execution Value := fun run =>
  match expr.evaluate run.environment with
  | .ok value environment => .ok value { run with environment }
  | .error error environment => .error (.error error) { run with environment }

def define (name : ByteString) (value : Value) : Execution Unit :=
  modify fun run => { run with environment := run.environment.define name value }

def print (line : Int) (value : Value) : Execution Unit := do
  modify fun run =>
    { run with written := run.written ++ [value.text], patience := run.patience.map (· - 1) }
  record (.print line value.text)

/-- Runs inside a new scope, which is left however the run goes on. -/
def inScope {α : Type} (inside : Execution α) : Execution α := fun run =>
  match inside { run with environment := run.environment.enter } with
  | .ok result after => .ok result { after with environment := after.environment.leave }
  | .error stop after => .error stop { after with environment := after.environment.leave }

def recorded (kind : String) (line : Int) (inside : Execution Value) : Execution Value := do
  record (.statementStart kind line)
  let value ← inside
  modify fun run => { run with completed := run.completed + 1 }
  record (.statementEnd kind line value)
  pure value

def tracked (interrupt : Run → Bool) (kind : String) (line : Int) (inside : Execution Value) :
    Execution Value := do
  checkInterrupt interrupt
  recorded kind line inside

end Execution

namespace Stmt

mutual

def execute (interrupt : Run → Bool) (echo : Bool) (stmt : Stmt) : Execution Value :=
  match stmt with
  | letIn name initializer => do
    let value ← Execution.evaluate initializer
    Execution.define name.lexeme value
    pure value
  | print _ expr => do
    let value ← Execution.evaluate expr
    Execution.print stmt.line value
    pure value
  | expression expr => do
    let value ← Execution.evaluate expr
    if echo then Execution.print stmt.line value
    pure value
  | block _ body => Execution.inScope (executeAll interrupt echo .nil body)
  | hole => throw (.error ⟨.missingStatement, .nowhere⟩)

/-- Statements one after another; the value is that of the last, or `last` when there is none. -/
def executeAll (interrupt : Run → Bool) (echo : Bool) (last : Value) : List Stmt → Execution Value
  | [] => pure last
  | stmt :: rest => do
    let value ← Execution.tracked interrupt stmt.kindName stmt.line (stmt.execute interrupt echo)
    executeAll interrupt echo value rest

end

end Stmt

structure RunReport where
  result : Except Stop Value
  environment : Environment
  written : List ByteString
  events : List Event
  completed : Nat

def errorEvents : Except Stop Value → List Event
  | .error (.error error) => [.runtimeError error]
  | _ => []

namespace RunReport

def output (report : RunReport) : ByteString := .unlines report.written

def close (result : Except Stop Value) (after : Run) : RunReport :=
  { result
    environment := after.environment
    written := after.written
    events := after.events ++ errorEvents result ++ [.runEnd after.completed]
    completed := after.completed }

def ofOutcome : EStateM.Result Stop Run Value → RunReport
  | .ok value after => .close (.ok value) after
  | .error stop after => .close (.error stop) after

end RunReport

def executeUntil (interrupt : Run → Bool) (statements : List Stmt) (environment : Environment)
    (echo : Bool) (patience : Option Nat) : RunReport :=
  .ofOutcome (Stmt.executeAll interrupt echo .nil statements
    ⟨environment, [], [.runStart statements.length], 0, patience⟩)

def execute (statements : List Stmt) (environment : Environment) (echo : Bool)
    (patience : Option Nat) : RunReport :=
  executeUntil Run.impatient statements environment echo patience

end Scriptlet
