import Scriptlet.Command.Basic
import Scriptlet.Time.Instant
import Std.Time.DateTime.Timestamp

/-! Commands over the files and streams of the system. -/
namespace Scriptlet.Terminal

def notDirectoryCode : UInt32 := 20

def faultOf (error : IO.Error) : FileFault :=
  match error with
  | .noFileOrDirectory .. => .notFound
  | .inappropriateType _ code _ => if code = notDirectoryCode then .notDirectory else .isDirectory
  | .resourceExhausted .. => .noSpace
  | other => .other (toString other)

def attempt {α : Type} (action : IO α) : IO (Except FileFault α) := do
  try
    pure (.ok (← action))
  catch error => pure (.error (faultOf error))

/-- Writes a file. What is written is flushed, so that a failure to write is met here. -/
def writeFile (path : String) (content : ByteArray) : IO (Except FileFault Unit) :=
  attempt do
    let handle ← IO.FS.Handle.mk path .write
    handle.write content
    handle.flush

def isPresent (path : String) : IO Bool := do
  match ← attempt (IO.FS.Handle.mk path .read) with
  | .error .notFound | .error .notDirectory => pure false
  | _ => pure true

def makeDirectories (path : String) : IO (Except String Unit) := do
  let outcome ← attempt (IO.FS.createDirAll path)
  pure (outcome.mapError fun fault => "mkdir " ++ path ++ ": " ++ fault.message)

def home : IO (Option String) := do
  pure ((← IO.getEnv "HOME").filter (!·.isEmpty))

def readInput : IO (Option ByteArray) := do
  pure (← attempt ((← IO.getStdin).readBinToEnd)).toOption

def now : IO Instant := do
  pure (.sinceEpoch (← Std.Time.Timestamp.now).toNanosecondsSinceUnixEpoch.val)

def runId : IO String := do
  pure s!"run-{(← Std.Time.Timestamp.now).toNanosecondsSinceUnixEpoch.val}"

def print (text : ByteString) : IO Unit := do
  let stdout ← IO.getStdout
  stdout.write text.bytes
  stdout.flush

def report (text : ByteString) : IO Unit := do
  (← IO.getStderr).write text.bytes

partial def readBytes (input : IO.FS.Stream) (line : ByteArray) : IO ByteArray := do
  let byte ← input.read 1
  if byte.isEmpty then pure line
  else if byte.toList = [Text.lineFeed] then pure (line ++ byte)
  else readBytes input (line ++ byte)

def readLine : IO LineInput := do
  match ← attempt (do readBytes (← IO.getStdin) .empty) with
  | .error _ => pure .failure
  | .ok bytes => pure (((Text.inputLines bytes).head?.map .line).getD .ended)

def record (history : History) (event : DialogueEvent) : IO History := do
  match event with
  | .prompt _ => pure history
  | .stdout text => print text; pure history
  | .stderr text => report text; pure history
  | .history entry => pure (history.add entry)

partial def converse (dialogue : Dialogue) (history : History) : IO History := do
  let shown := !dialogue.prompt.shown.toList.any Text.isControl
  if shown then print dialogue.prompt
  let input ← if shown then readLine else pure .failure
  let (after, events) := dialogue.step input
  let history ← events.foldlM record history
  if after.finished then pure history else converse after history

def host : Host IO where
  directory := return (← IO.currentDir).toString
  home := home
  readFile path := attempt (IO.FS.readBinFile path)
  writeFile := writeFile
  makeDirectories := makeDirectories
  isPresent := isPresent
  readInput := readInput
  print := print
  report := report
  time := return (← now).toText
  runId := runId
  converse := converse

end Scriptlet.Terminal
