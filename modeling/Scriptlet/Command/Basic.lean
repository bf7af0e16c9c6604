import Scriptlet.Comments
import Scriptlet.Command.Configuration
import Scriptlet.Syntax.Tree
import Scriptlet.Trace.Summary

/-! The commands of the command line. -/
namespace Scriptlet.Command

def inputOutputError : Nat := 1
def usageError : Nat := 64
def dataError : Nat := 65

abbrev Action (m : Type → Type) := ExceptT Nat m

variable {m : Type → Type} [Monad m] (host : Host m)

def printLine (text : ByteString) : Action m Unit :=
  liftM (host.print (text ++ "\n"))

def reportLine (text : ByteString) : Action m Unit :=
  liftM (host.report (text ++ "\n"))

def relay (effects : Effects) : Action m Unit := do
  host.print effects.stdout
  host.report effects.stderr

def usage {α : Type} (text : String) : Action m α := do
  reportLine host text
  throw usageError

def failure {α : Type} (style : Diagnostic.Style) (code message : String) : Action m α := do
  reportLine host (Diagnostic.render style ⟨code, message, 0, ""⟩)
  throw inputOutputError

def isFlag (argument : String) : Bool :=
  argument.toList.head? == some '-'

/-- The last argument that is no flag; a lone dash counts if it stands for the standard input. -/
def lastFile (dashCounts : Bool) (arguments : List String) : String :=
  (arguments.filter fun argument => !isFlag argument || (dashCounts && argument = "-")).getLast?.getD ""

def firstOperand (arguments : List String) : String :=
  (arguments.find? fun argument => !isFlag argument || argument = "-").getD ""

def readSource (file : String) (style : Diagnostic.Style) : Action m String := do
  if file = "-" then
    match ← host.readInput with
    | some bytes => pure (Text.ofBytes bytes)
    | none => failure host style "E_IO" "cannot read stdin"
  else
    match ← host.readFile file with
    | .ok bytes => pure (Text.ofBytes bytes)
    | .error _ => failure host style "E_IO" ("cannot read file: " ++ file)

def loadConfig (style : Diagnostic.Style) : Action m Config := do
  match ← (Config.effective host : m _) with
  | .ok config => pure config
  | .error error => failure host style "E_CONFIG" error.message

def styleOf (json : Bool) : Diagnostic.Style :=
  if json then .json else .text

structure RunOptions where
  file : String := ""
  tracePath : String := ""
  failFast : Bool := false
  json : Bool := false

def runOptions? : List String → RunOptions → Option RunOptions
  | [], options => some options
  | "--fail-fast" :: rest, options => runOptions? rest { options with failFast := true }
  | "--json" :: rest, options => runOptions? rest { options with json := true }
  | "--trace" :: path :: rest, options =>
    if isFlag path then none else runOptions? rest { options with tracePath := path }
  | ["--trace"], _ => none
  | argument :: rest, options =>
    if isFlag argument && argument ≠ "-" then runOptions? rest options
    else runOptions? rest { options with file := argument }

def openTrace (path : String) (style : Diagnostic.Style) : Action m Unit := do
  if !path.isEmpty then
    match ← host.writeFile path .empty with
    | .ok _ => pure ()
    | .error _ => failure host style "E_IO" ("cannot write trace file: " ++ path)

/-- Writes the events of a run, each on its line. The first is as old as the run, the others are as old
as its end. -/
def writeTrace (path runId started ended : String) (events : List Event)
    (style : Diagnostic.Style) : Action m Unit := do
  if !path.isEmpty && !events.isEmpty then
    let first := (events.take 1).map (·.toJson started runId ++ "\n")
    let others := (events.drop 1).map (·.toJson ended runId ++ "\n")
    match ← host.writeFile path (String.join (first ++ others)).toUTF8 with
    | .ok _ => pure ()
    | .error fault =>
      failure host style "E_IO"
        ("cannot write trace file: " ++ path ++ ": write " ++ path ++ ": " ++ fault.message)

def exitWith (code : Nat) : Action m Unit :=
  if code = 0 then pure () else throw code

def run (arguments : List String) : Action m Unit := do
  let some options := runOptions? arguments {}
    | usage host "usage: taco run <file|-> --trace <out.jsonl>"
  if options.file.isEmpty then
    usage host "usage: taco run <file|-> [--fail-fast] [--json] [--trace <out.jsonl>]"
  let config ← loadConfig host (styleOf options.json)
  let style := if options.json then .json else config.style
  let source ← readSource host options.file style
  openTrace host options.tracePath style
  let settings := config.apply { tracing := !options.tracePath.isEmpty }
  let settings := { settings with
    echo := false
    style
    mode := if options.failFast then .failFast else settings.mode }
  let runId ← host.runId
  let started ← host.time
  let (_, session, effects) := (Session.new settings).run source {}
  relay host effects
  writeTrace host options.tracePath runId started (← host.time) effects.events style
  exitWith session.exitCode

def check (arguments : List String) : Action m Unit := do
  let file := lastFile true arguments
  let style := styleOf (arguments.contains "--json")
  if file.isEmpty then usage host "usage: taco check <file> [--json]"
  let source ← readSource host file style
  let (found, _, effects) := (Session.new {}).check source
  relay host effects
  if found.isEmpty then printLine host (match style with | .json => "[]" | .text => "No errors found.")
  else
    reportLine host (Diagnostic.renderAll style found)
    throw dataError

def fmt (arguments : List String) : Action m Unit := do
  let file := lastFile false arguments
  if file.isEmpty then usage host "usage: taco fmt <file> [--write]"
  let source ← readSource host file .text
  let (outcome, _, effects) := (Session.new {}).format source
  relay host effects
  match outcome with
  | .error failure =>
    reportLine host failure.message
    throw dataError
  | .ok formatted =>
    if hasComments source then
      reportLine host "warning: comments are not preserved by the formatter"
    if arguments.contains "--write" then
      match ← host.writeFile file formatted.toUTF8 with
      | .ok _ => pure ()
      | .error _ => failure host .text "E_IO" ("cannot write file: " ++ file)
    else host.print formatted

def showTokens (arguments : List String) : Action m Unit := do
  let file := firstOperand arguments
  if file.isEmpty then usage host "usage: taco tokens <file>"
  let scanned := scan (← readSource host file .text)
  host.report (Diagnostic.report .text (scanned.errors.map (·.diagnostic)))
  host.print (.unlines (scanned.tokens.map fun token => token.describe))
  exitWith (if scanned.errors.isEmpty then 0 else dataError)

def showTree (arguments : List String) : Action m Unit := do
  let file := firstOperand arguments
  if file.isEmpty then usage host "usage: taco ast <file>"
  let source ← readSource host file .text
  let (outcome, session, effects) := (Session.new {}).read source
  relay host effects
  match outcome with
  | .ok statements => host.print (treeText statements)
  | .error _ => exitWith session.exitCode

/-- Of the flags that choose how a summary is written, the last one holds. -/
def asText (arguments : List String) : Bool :=
  (arguments.filter fun argument => argument = "--json" || argument = "--text").getLast? == some "--text"

/-- What there is to read of a file. A directory can be opened, but reading it fails. -/
def traceInput (file : String) : Action m TraceInput := do
  match ← host.readFile file with
  | .ok bytes => pure ⟨bytes, none⟩
  | .error .isDirectory =>
    pure ⟨.empty, some ("read " ++ file ++ ": " ++ FileFault.isDirectory.message)⟩
  | .error _ => failure host .text "E_IO" ("cannot read file: " ++ file)

def summarize (arguments : List String) : Action m Unit := do
  let file := lastFile false arguments
  if file.isEmpty then usage host "usage: taco trace <file.jsonl> [--json|--text]"
  match TraceSummary.ofInput (← traceInput host file) with
  | .ok summary => host.print (if asText arguments then summary.toText else .text (summary.toJson ++ "\n"))
  | .error fault =>
    failure host .text "E_IO" ("cannot read trace: " ++ file ++ ": " ++ fault.message)

def help (arguments : List String) : Action m Unit := do
  let topic := firstOperand arguments
  if topic.isEmpty then host.print Help.overview
  else
    match Help.find topic with
    | .ok found => printLine host found.content
    | .error mismatch => usage host mismatch.message

def initConfig : Action m Unit := do
  let path := Path.join (← host.directory) Config.projectFile
  if ← host.isPresent path then
    failure host .text "E_CONFIG" (Config.projectFile ++ " already exists")
  match ← (Config.save host {} path : m _) with
  | .ok _ => printLine host ("wrote " ++ Config.projectFile)
  | .error _ => failure host .text "E_IO" ("cannot write file: " ++ path)

def showConfig (arguments : List String) : Action m Unit := do
  if arguments.contains "--init" then initConfig host
  else
    let config ← loadConfig host .text
    printLine host
      ("# source: " ++ if config.source.isEmpty then "defaults" else config.source)
    host.print config.toYaml

def banner : String :=
  "taco " ++ Help.version ++ " REPL\nCtrl+C cancels input, Ctrl+D exits. Type :help for commands."

def loadHistory (path : String) : m History := do
  if path.isEmpty then pure []
  else
    match ← host.readFile path with
    | .ok bytes => pure (History.ofBytes bytes)
    | .error _ => pure []

def saveHistory (path : String) (history : History) : m Unit := do
  if !path.isEmpty then
    let _ ← host.makeDirectories (Path.parent path)
    let _ ← host.writeFile path history.toBytes

def converse (arguments : List String) : Action m Unit := do
  if !arguments.isEmpty then usage host "usage: taco repl"
  let config ← loadConfig host .text
  let history ← (loadHistory host config.historyFile.shown : m _)
  printLine host banner
  let history ← host.converse (.new config) history
  (saveHistory host config.historyFile.shown history : m _)

def dispatch (arguments : List String) : Action m Unit :=
  match arguments with
  | [] => converse host []
  | "run" :: rest => run host rest
  | "repl" :: rest => converse host rest
  | "check" :: rest => check host rest
  | "fmt" :: rest => fmt host rest
  | "tokens" :: rest => showTokens host rest
  | "ast" :: rest => showTree host rest
  | "trace" :: rest => summarize host rest
  | "config" :: rest => showConfig host rest
  | "help" :: rest | "--help" :: rest | "-h" :: rest => help host rest
  | "version" :: _ | "--version" :: _ => printLine host ("taco " ++ Help.version)
  | [file] => if isFlag file then usage host "Usage: taco [file]" else run host [file]
  | _ => usage host "Usage: taco [file]"

def execute (arguments : List String) : m Nat := do
  match ← (dispatch host arguments).run with
  | .ok _ => pure 0
  | .error code => pure code

end Scriptlet.Command
