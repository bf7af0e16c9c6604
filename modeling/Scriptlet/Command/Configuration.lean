import Scriptlet.Command.Host
import Scriptlet.Config.Document

/-! Configurations in files: finding the one that holds, and saving one. -/
namespace Scriptlet.Config

variable {m : Type → Type} [Monad m] (host : Host m)

def load? (path : String) : m (Except ConfigError (Option Config)) := do
  match ← host.readFile path with
  | .ok bytes => pure ((ofBytes path bytes).map some)
  | .error .notFound => pure (.ok none)
  | .error .isDirectory =>
    let reason := "read " ++ path ++ ": " ++ FileFault.isDirectory.message
    pure (.error (.malformed path ⟨.unreadable reason, 0⟩))
  | .error fault => pure (.error (.inaccessible ("open " ++ path ++ ": " ++ fault.message)))

def firstOf : List String → m (Except ConfigError (Option Config))
  | [] => pure (.ok none)
  | path :: rest => do
    match ← load? host path with
    | .ok none => firstOf rest
    | found => pure found

def effective : m (Except ConfigError Config) := do
  let home ← host.home
  let found ← firstOf host (candidates (← host.directory) home)
  pure (found.map fun config => (config.getD {}).atHome home)

/-- Writes a configuration to a file, and makes its directory. The result is the reason why not. -/
def save (config : Config) (path : String) : m (Except String Unit) := do
  let directory := Path.parent path
  match ← host.makeDirectories directory with
  | .error reason => pure (.error ("config: create " ++ directory ++ ": " ++ reason))
  | .ok _ =>
    match ← host.writeFile path config.toYaml.toUTF8 with
    | .error fault => pure (.error ("open " ++ path ++ ": " ++ fault.message))
    | .ok _ => pure (.ok ())

end Scriptlet.Config
