import Scriptlet.RuntimeError
import Scriptlet.Value.Json

/-! What a run records: its start and end, the start and end of every statement, what is printed, and the
error that stops it. -/
namespace Scriptlet

inductive Event
  | runStart (statements : Nat)
  | statementStart (kind : String) (line : Int)
  | statementEnd (kind : String) (line : Int) (value : Value)
  | print (line : Int) (text : ByteString)
  | runtimeError (error : RuntimeError)
  | runEnd (statements : Nat)

namespace Event

def name : Event → String
  | runStart _ => "run_start"
  | statementStart .. => "stmt_start"
  | statementEnd .. => "stmt_end"
  | print .. => "print"
  | runtimeError _ => "runtime_error"
  | runEnd _ => "run_end"

def line : Event → Int
  | runStart _ => 0
  | statementStart _ line => line
  | statementEnd _ line _ => line
  | print line _ => line
  | runtimeError error => error.token.line
  | runEnd _ => 0

/-- What an event tells, as the fields of a JSON object in the order of their names. -/
def data : Event → String
  | runStart statements => s!"\"statements\":{statements}"
  | statementStart kind _ => "\"kind\":" ++ Json.quote kind
  | statementEnd kind _ value => "\"kind\":" ++ Json.quote kind ++ ",\"value\":" ++ value.toJson
  | print _ text => "\"text\":" ++ Json.quote text.shown
  | runtimeError error =>
    "\"code\":" ++ Json.quote error.fault.code ++ ",\"message\":" ++ Json.quote error.fault.message.shown
  | runEnd statements => s!"\"statements\":{statements}"

def toJson (time runId : String) (event : Event) : String :=
  "\x7b\"ts\":" ++ Json.quote time ++ ",\"runId\":" ++ Json.quote runId
    ++ ",\"event\":" ++ Json.quote event.name
    ++ (if event.line = 0 then "" else s!",\"line\":{event.line}")
    ++ ",\"data\":\x7b" ++ event.data ++ "\x7d\x7d"

end Event

end Scriptlet
