import Scriptlet.Json.Record

/-! Recorded events as they are read back: what a line of a trace says, whether or not a run wrote it. -/
namespace Scriptlet

structure TraceRecord where
  event : String := ""
  runId : String := ""
  time : String := ""
  line : Int := 0
  data : List (String × Json) := []

namespace TraceRecord

/-- Data are added to those already read; null drops them all. -/
def readData? (old : List (String × Json)) : Json → Option (List (String × Json))
  | .null => some []
  | .object members =>
    if Json.memberNumbersFit members then
      some (old ++ members.map fun member => (Json.decodeText member.1, member.2))
    else none
  | _ => none

def field (record : TraceRecord) (name : String) (value : Json) : Option TraceRecord :=
  match name with
  | "event" => (value.asText? record.event).map fun event => { record with event }
  | "runid" => (value.asText? record.runId).map fun runId => { record with runId }
  | "ts" => (value.asText? record.time).map fun time => { record with time }
  | "line" => (value.asInteger? record.line).map fun line => { record with line }
  | "data" => (readData? record.data value).map fun data => { record with data }
  | _ => some record

def ofLine? (line : String) : Option TraceRecord := do
  let json ← Json.read? line
  json.asRecord? {} field

/-- The value of a name in the data; a later one stands for an earlier one. -/
def datum? (record : TraceRecord) (name : String) : Option Json :=
  record.data.reverse.lookup name

end TraceRecord

end Scriptlet
