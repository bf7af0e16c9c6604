import Scriptlet.Dialogue
import Scriptlet.FileTree
import Scriptlet.History

/-! What a command needs of its surroundings, and surroundings that are a value. -/
namespace Scriptlet

structure Host (m : Type → Type) where
  /-- The directory that relative paths start from. -/
  directory : m String
  home : m (Option String)
  readFile : String → m (Except FileFault ByteArray)
  writeFile : String → ByteArray → m (Except FileFault Unit)
  /-- Makes a directory and those above it, or gives the reason why not. -/
  makeDirectories : String → m (Except String Unit)
  isPresent : String → m Bool
  /-- All of the standard input, or none if reading it fails. -/
  readInput : m (Option ByteArray)
  print : ByteString → m Unit
  report : ByteString → m Unit
  /-- The present time, and a name for a run that starts now. -/
  time : m String
  runId : m String
  /-- Holds a dialogue over the lines of the standard input, and gives the history it leaves. -/
  converse : Dialogue → History → m History

/-- Surroundings as a value: files, an input, and what was written so far. -/
structure World where
  files : FileTree := {}
  directory : List String := []
  home : Option String := none
  input : ByteArray := .empty
  /-- Reading fails at the end of the input. -/
  inputFails : Bool := false
  stdout : ByteString := ""
  stderr : ByteString := ""
  time : String := ""
  runId : String := ""

namespace World

def pathText (names : List String) : String :=
  "/" ++ "/".intercalate names

def makeDirectories (path : String) : StateM World (Except String Unit) := do
  let world ← get
  let wholePath := if Path.isAbsolute path then path else pathText world.directory ++ "/" ++ path
  let (files, outcome) := world.files.makeAlong [] (Path.names (Path.clean wholePath))
  set { world with files }
  pure (outcome.mapError fun (place, fault) => "mkdir " ++ pathText place ++ ": " ++ fault.message)

def writeFile (path : String) (content : ByteArray) : StateM World (Except FileFault Unit) := do
  let world ← get
  match world.files.write world.directory path content with
  | .ok files => set { world with files }; pure (.ok ())
  | .error fault => pure (.error fault)

def inputs (world : World) : List LineInput :=
  (Text.inputLines world.input).map .line ++ (if world.inputFails then [.failure] else [])

def print (world : World) (text : ByteString) : World :=
  { world with stdout := world.stdout ++ text }

def report (world : World) (text : ByteString) : World :=
  { world with stderr := world.stderr ++ text }

def record (world : World) (history : History) (event : DialogueEvent) : World × History :=
  match event with
  | .prompt text => (world.print text, history)
  | .stdout text => (world.print text, history)
  | .stderr text => (world.report text, history)
  | .history entry => (world, history.add entry)

def converse (dialogue : Dialogue) (history : History) : StateM World History := do
  let world ← get
  let (_, events) := Dialogue.runBy Dialogue.askPlainly dialogue world.inputs
  let (world, history) :=
    events.foldl (fun (world, history) event => world.record history event) (world, history)
  set world
  pure history

def host : Host (StateM World) where
  directory := (fun world => pathText world.directory) <$> get
  home := (fun world => world.home) <$> get
  readFile path := (fun world => world.files.read world.directory path) <$> get
  writeFile := writeFile
  makeDirectories := makeDirectories
  isPresent path := (fun world => (world.files.find? world.directory path).isSome) <$> get
  readInput := (fun world => if world.inputFails then none else some world.input) <$> get
  print text := modify (·.print text)
  report text := modify (·.report text)
  time := (fun world => world.time) <$> get
  runId := (fun world => world.runId) <$> get
  converse := converse

end World

end Scriptlet
