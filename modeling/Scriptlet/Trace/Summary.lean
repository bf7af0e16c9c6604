import Scriptlet.Decimal.Fixed
import Scriptlet.Text.Blank
import Scriptlet.Text.Chunk
import Scriptlet.Text.Lines
import Scriptlet.Time.Instant
import Scriptlet.Trace.Record
import Scriptlet.Value.Json

/-! The summary of a trace: counts of its events, the first run named, the last value, the last error,
and how long it took. -/
namespace Scriptlet

structure TraceSummary where
  runId : String := ""
  totalEvents : Nat := 0
  statements : Nat := 0
  prints : Nat := 0
  runtimeErrors : Nat := 0
  lastValue : ByteString := ""
  errorMessage : ByteString := ""
  startTime : String := ""
  endTime : String := ""
  /-- Milliseconds from the first start to the last end. -/
  duration : Float := 0

/-- What there is to read of a trace: bytes and, where reading fails behind them, the reason. -/
structure TraceInput where
  bytes : ByteArray
  failure : Option String := none

inductive TraceFault
  | lineTooLong
  | unread (cause : String)
deriving DecidableEq, Repr

def TraceFault.message : TraceFault → String
  | lineTooLong => "bufio.Scanner: token too long"
  | unread cause => cause

namespace TraceSummary

def addStatement (summary : TraceSummary) (record : TraceRecord) : TraceSummary :=
  { summary with
    statements := summary.statements + 1
    lastValue := match record.datum? "value" with
      | some json => (Value.ofJson json).text
      | none => summary.lastValue }

def addError (summary : TraceSummary) (record : TraceRecord) : TraceSummary :=
  { summary with
    runtimeErrors := summary.runtimeErrors + 1
    errorMessage := match record.datum? "message" with
      | some (.string literal) =>
        ByteString.text (s!"[Line {record.line}] Error: " ++ Json.decodeText literal)
      | _ => summary.errorMessage }

def addEvent (summary : TraceSummary) (record : TraceRecord) : TraceSummary :=
  match record.event with
  | "run_start" =>
    if summary.startTime.isEmpty then { summary with startTime := record.time } else summary
  | "run_end" => { summary with endTime := record.time }
  | "stmt_end" => summary.addStatement record
  | "print" => { summary with prints := summary.prints + 1 }
  | "runtime_error" => summary.addError record
  | _ => summary

def add (summary : TraceSummary) (record : TraceRecord) : TraceSummary :=
  { summary with
    totalEvents := summary.totalEvents + 1
    runId := if summary.runId.isEmpty then record.runId else summary.runId }.addEvent record

/-- The records of a trace text. Blank lines and lines that are no record are passed over. -/
def records (text : String) : List TraceRecord :=
  (Text.lines text).filterMap fun line => TraceRecord.ofLine? (Text.trim line)

def milliseconds (microseconds : Int) : Float :=
  Float.ofInt microseconds / 1000

def timed (summary : TraceSummary) : TraceSummary :=
  match Instant.parse? summary.startTime, Instant.parse? summary.endTime with
  | some start, some finish => { summary with duration := milliseconds (start.microsecondsTo finish) }
  | _, _ => summary

def ofRecords (records : List TraceRecord) : TraceSummary :=
  (records.foldl add {}).timed

def ofText (text : String) : TraceSummary :=
  ofRecords (records text)

/-- A line of a trace has fewer bytes than this, its line feed not counted. -/
def lineLimit : Nat := 64 * 1024 * 1024

/-- The summary of what is read. A line that is too long ends the reading before a failure behind it does,
and neither leaves a summary. -/
def ofInput (input : TraceInput) : Except TraceFault TraceSummary :=
  if (Text.splitAt Text.lineFeed input.bytes.toList).any fun line => lineLimit ≤ line.length then
    .error .lineTooLong
  else
    match input.failure with
    | some cause => .error (.unread cause)
    | none => .ok (ofText (Text.ofBytes input.bytes))

def optionalField (name : String) (value : ByteString) : String :=
  if value.isEmpty then "" else ",\"" ++ name ++ "\":" ++ Json.quote value.shown

def toJson (summary : TraceSummary) : String :=
  "\x7b\"runId\":" ++ Json.quote summary.runId
    ++ s!",\"totalEvents\":{summary.totalEvents},\"statements\":{summary.statements}"
    ++ s!",\"prints\":{summary.prints},\"runtimeErrors\":{summary.runtimeErrors}"
    ++ optionalField "lastValue" summary.lastValue
    ++ optionalField "errorMessage" summary.errorMessage
    ++ optionalField "startTime" summary.startTime
    ++ optionalField "endTime" summary.endTime
    ++ ",\"durationMs\":" ++ Json.floatText summary.duration ++ "\x7d"

def toText (summary : TraceSummary) : ByteString :=
  let counts : List ByteString := [
    s!"Run: {summary.runId}", s!"Events: {summary.totalEvents}", s!"Statements: {summary.statements}",
    s!"Prints: {summary.prints}", s!"Runtime errors: {summary.runtimeErrors}"]
  .unlines (counts
    ++ (if summary.errorMessage.isEmpty then [] else ["  " ++ summary.errorMessage])
    ++ (if summary.lastValue.isEmpty then [] else ["Last value: " ++ summary.lastValue])
    ++ (if summary.duration > 0 then [.text s!"Duration: {Decimal.fixedText 3 summary.duration}ms"]
      else []))

end TraceSummary

end Scriptlet
