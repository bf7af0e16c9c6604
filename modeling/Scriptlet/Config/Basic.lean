import Scriptlet.Path
import Scriptlet.Session
import Scriptlet.Text.Quoted
import Scriptlet.Yaml.Fault

/-! Configurations: the prompts, the history file and the defaults of a session. -/
namespace Scriptlet

/-- A configuration as it is written; `issues` says what is wrong with it. `source` is the file that it
was read from, and empty for the defaults. -/
structure Config where
  prompt : ByteString := ">> "
  continuationPrompt : ByteString := ".. "
  historyFile : ByteString := "~/.taco_history"
  echo : Bool := true
  parseMode : String := "collect"
  diagnostics : String := "text"
  source : String := ""
deriving DecidableEq, Repr

inductive ConfigError
  | invalid (path : String) (issues : List String)
  | misfit (path : String) (problems : List String)
  | malformed (path : String) (fault : Yaml.Fault)
  | inaccessible (reason : String)

namespace ConfigError

def message : ConfigError → String
  | invalid _ [] => "config: invalid configuration"
  | invalid path issues =>
    "config validation failed" ++ (if path.isEmpty then "" else " for " ++ path) ++ ":"
      ++ String.join (issues.map ("\n- " ++ ·))
  | misfit path problems =>
    "config: parse " ++ path ++ ": yaml: unmarshal errors:"
      ++ String.join (problems.map ("\n  " ++ ·))
  | malformed path fault => "config: parse " ++ path ++ ": " ++ fault.message
  | inaccessible reason => reason

end ConfigError

namespace Config

def choice (field : String) (choices : String × String) (chosen : String) : List String :=
  if chosen = choices.1 || chosen = choices.2 then []
  else [field ++ " must be " ++ Text.quote choices.1 ++ " or " ++ Text.quote choices.2 ++ ", got "
    ++ Text.quote chosen]

def issues (config : Config) : List String :=
  choice "parse_mode" ("collect", "fail-fast") config.parseMode
    ++ choice "diagnostics" ("text", "json") config.diagnostics
    ++ (if config.prompt.isEmpty then ["prompt must be a non-empty string"] else [])

def validate (config : Config) : Except ConfigError Config :=
  match config.issues with
  | [] => .ok config
  | issues => .error (.invalid config.source issues)

def style (config : Config) : Diagnostic.Style :=
  if config.diagnostics = "json" then .json else .text

def apply (config : Config) (settings : Settings) : Settings :=
  { settings with
    echo := config.echo
    mode := if config.parseMode = "fail-fast" then .failFast else .collect
    style := config.style }

/-- A leading `~` stands for the home directory, if there is one. -/
def expandHome (home : Option String) (path : ByteString) : ByteString :=
  match home, path with
  | some home, .text path =>
    match path.toList with
    | ['~'] => home
    | '~' :: '/' :: rest => Path.join home (String.ofList rest)
    | _ => path
  | _, _ => path

def atHome (home : Option String) (config : Config) : Config :=
  { config with historyFile := expandHome home config.historyFile }

def projectFile : String := ".taco.yaml"

def candidates (directory : String) (home : Option String) : List String :=
  Path.join directory projectFile
    :: (home.map fun home => Path.join home ".taco/config.yaml").toList

end Config

end Scriptlet
