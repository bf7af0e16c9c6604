import Scriptlet.Config.Basic
import Scriptlet.Help
import Scriptlet.Text.Blank
import Scriptlet.Text.Control

/-! Dialogues: a session fed line by line. Lines are held until they make up an entry; an entry is a
command if it begins with a colon, and otherwise a source that is run. -/
namespace Scriptlet

/-- What asking for a line can give: a line, a request to drop the lines held, a failure, or the end of
all input. -/
inductive LineInput
  | line (text : ByteString)
  | abort
  | failure
  | ended
deriving DecidableEq, Repr

inductive DialogueEvent
  | prompt (text : ByteString)
  | history (entry : ByteString)
  | stdout (text : ByteString)
  | stderr (text : ByteString)
deriving DecidableEq, Repr

structure Dialogue where
  firstPrompt : ByteString
  nextPrompt : ByteString
  session : Session
  /-- The lines of an entry that is not yet complete. -/
  held : List ByteString := []
  finished : Bool := false

namespace Dialogue

def new (config : Config) : Dialogue :=
  { firstPrompt := config.prompt
    nextPrompt := config.continuationPrompt
    session := .new (config.apply {}) }

def prompt (dialogue : Dialogue) : ByteString :=
  if dialogue.held.isEmpty then dialogue.firstPrompt else dialogue.nextPrompt

def joined (lines : List ByteString) : ByteString :=
  ByteString.intercalate "\n" lines

def isCommand (entry : ByteString) : Bool :=
  entry.shown.toList.head? == some ':'

def isBlankLine (line : ByteString) : Bool :=
  line.trim.isEmpty

def remembered (entry : ByteString) : ByteString :=
  .ofPieces (entry.pieces.map fun piece => if piece = .char '\n' then .char ' ' else piece)

def written (text : ByteString) : List DialogueEvent :=
  if text.isEmpty then [] else [.stdout text]

def reported (text : ByteString) : List DialogueEvent :=
  if text.isEmpty then [] else [.stderr text]

def relayed (effects : Effects) : List DialogueEvent :=
  written effects.stdout ++ reported effects.stderr

def bindingLines (session : Session) : ByteString :=
  .unlines (session.globals.bindings.map fun (name, value) => name ++ " = " ++ value.text)

def checkSource (dialogue : Dialogue) (source : String) : Dialogue × List DialogueEvent :=
  if source.isEmpty then (dialogue, written "usage: :check <statements>\n")
  else
    let (found, session, effects) := dialogue.session.check source
    let report : ByteString := if found.isEmpty then "No errors found." else Diagnostic.renderAll .text found
    ({ dialogue with session }, relayed effects ++ written (report ++ "\n"))

def helpText (topics : List ByteString) : String :=
  match topics with
  | [] => Help.replTopic.content
  | topic :: _ =>
    match Help.find topic with
    | .ok found => found.content
    | .error mismatch => mismatch.message

/-- Carries out a command: its first word, the words after it, and the text after the first word. -/
def command (dialogue : Dialogue) (name : String) (words : List ByteString) (rest : String) :
    Dialogue × List DialogueEvent :=
  match name with
  | ":quit" | ":q" | ":exit" => ({ dialogue with finished := true }, [])
  | ":reset" =>
    ({ dialogue with session := dialogue.session.resetGlobals }, written "environment cleared\n")
  | ":env" => (dialogue, written (bindingLines dialogue.session))
  | ":check" => dialogue.checkSource (Text.trim rest)
  | ":help" => (dialogue, written (helpText words ++ "\n"))
  | _ => (dialogue, written ("unknown command " ++ name ++ "; type :help for commands\n"))

def runSource (dialogue : Dialogue) (source : String) : Dialogue × List DialogueEvent :=
  let (_, session, effects) := dialogue.session.run source {}
  ({ dialogue with session := session.reset }, relayed effects)

def handle (dialogue : Dialogue) (source : ByteString) : Dialogue × List DialogueEvent :=
  let dialogue := { dialogue with held := [] }
  let entry := source.trim
  if entry.isEmpty then (dialogue, [])
  else
    let (after, events) :=
      if isCommand entry then
        match entry.words with
        | name :: words =>
          let rest := entry.shown.toList.drop name.shown.length
          dialogue.command name.shown words (String.ofList rest)
        | [] => (dialogue, [])
      else dialogue.runSource source.shown
    (after, .history (remembered entry) :: events)

def close (dialogue : Dialogue) : Dialogue × List DialogueEvent :=
  ({ dialogue with held := [], finished := true }, [.stdout "\n"])

/-- Lines that make up an entry: a command, or a source that more text need not complete. -/
def isEntry (lines : List ByteString) : Bool :=
  let source := joined lines
  isCommand source.trim || !isIncomplete source.shown

def step (dialogue : Dialogue) (input : LineInput) : Dialogue × List DialogueEvent :=
  match input with
  | .abort => ({ dialogue with held := [] }, [])
  | .failure => dialogue.close
  | .ended => if dialogue.held.isEmpty then dialogue.close else dialogue.handle (joined dialogue.held)
  | .line text =>
    if !dialogue.held.isEmpty && isBlankLine text then dialogue.handle (joined dialogue.held)
    else
      let lines := dialogue.held ++ [text]
      if isEntry lines then dialogue.handle (joined lines) else ({ dialogue with held := lines }, [])

def ask (dialogue : Dialogue) (input : LineInput) : Dialogue × List DialogueEvent :=
  let (after, events) := dialogue.step input
  (after, .prompt dialogue.prompt :: events)

/-- As `ask`, where a prompt that holds a control character cannot be shown: asking with it fails. -/
def askPlainly (dialogue : Dialogue) (input : LineInput) : Dialogue × List DialogueEvent :=
  if dialogue.prompt.shown.toList.any Text.isControl then dialogue.step .failure else dialogue.ask input

/-- The end of the input: lines still held are an entry, and then there is nothing more to read. -/
def concludeBy (asking : Dialogue → LineInput → Dialogue × List DialogueEvent)
    (dialogue : Dialogue) : Dialogue × List DialogueEvent :=
  let (after, events) := asking dialogue .ended
  if after.finished then (after, events)
  else
    let (last, more) := asking after .ended
    (last, events ++ more)

def runBy (asking : Dialogue → LineInput → Dialogue × List DialogueEvent)
    (dialogue : Dialogue) : List LineInput → Dialogue × List DialogueEvent
  | [] => concludeBy asking dialogue
  | input :: rest =>
    let (after, events) := asking dialogue input
    if after.finished then (after, events)
    else
      let (last, more) := runBy asking after rest
      (last, events ++ more)

def run (dialogue : Dialogue) (inputs : List LineInput) : Dialogue × List DialogueEvent :=
  runBy ask dialogue inputs

end Dialogue

end Scriptlet
