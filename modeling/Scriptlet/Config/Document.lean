import Scriptlet.Config.Basic
import Scriptlet.Text.Utf8
import Scriptlet.Yaml.Node
import Scriptlet.Yaml.Writer

/-! Configurations as YAML documents: one mapping with a key for each field. A field that the mapping
does not set, or sets to null, keeps its default. Everything that does not fit is reported, in the
order of the text. -/
namespace Scriptlet

namespace Yaml.Node

/-- A text as shown in a message, cut short if it has more than ten bytes. -/
def excerpt (text : String) : String :=
  let bytes := text.toUTF8
  if 10 < bytes.size then Text.ofBytes (bytes.extract 0 7) ++ "..." else text

/-- What a scalar stands for; one in quotes is always a text. -/
def tag (form : Form) (text : String) : Tag :=
  match form with
  | .plain => if text = "<<" then .merge else .ofPlain text
  | .quoted => .string
  | .binary => .binary

def sameKey : Node → Node → Bool
  | scalar _ _ a, scalar _ _ b => a == b
  | sequence .., sequence .. => true
  | mapping .., mapping .. => true
  | _, _ => false

def keyText : Node → String
  | scalar _ _ text => text
  | _ => ""

def repeatedKeys : List (Node × Node) → List String
  | [] => []
  | (key, _) :: rest =>
    (rest.filter fun entry => sameKey key entry.1).map (fun entry =>
      s!"line {entry.1.line}: mapping key " ++ Text.quote entry.1.keyText
        ++ s!" already defined at line {key.line}")
      ++ repeatedKeys rest

def misfit (type : String) : Node → List String
  | scalar line form text =>
    [s!"line {line}: cannot unmarshal " ++ (tag form text).name ++ " \x60" ++ excerpt text
      ++ "\x60 into " ++ type]
  | sequence line _ => [s!"line {line}: cannot unmarshal !!seq into " ++ type]
  | mapping line entries =>
    match repeatedKeys entries with
    | [] => [s!"line {line}: cannot unmarshal !!map into " ++ type]
    | repeats => repeats

/-- A value in place of an old one, with what is wrong with it. -/
abbrev Fitted (α : Type) := α × List String

def content (form : Form) (text : String) : Except Fault ByteString :=
  match form with
  | .binary =>
    match Text.Base64.decode? (text.toList.filter fun c => c ≠ '\n' && c ≠ '\r') with
    | some bytes => .ok (.ofBytes ⟨bytes.toArray⟩)
    | none => .error ⟨.invalidBase64, 0⟩
  | _ => .ok text

def asText (type : String) (old : ByteString) (node : Node) : Except Fault (Fitted ByteString) :=
  match node with
  | scalar _ form text =>
    if tag form text = .null then .ok (old, []) else (content form text).map (·, [])
  | _ => .ok (old, node.misfit type)

def truthWords : List String := oldTruthWords.take 8

def falsityWords : List String := oldTruthWords.drop 8

/-- A truth value; besides the words of the format, the words of its earlier version count. -/
def asBoolean (old : Bool) (node : Node) : Fitted Bool :=
  match node with
  | scalar _ form text =>
    if tag form text = .null then (old, [])
    else if tag form text = .boolean then (Tag.trueTexts.contains text, [])
    else if truthWords.contains text then (true, [])
    else if falsityWords.contains text then (false, [])
    else (old, node.misfit "bool")
  | _ => (old, node.misfit "bool")

def isMerge : Node → Bool
  | scalar _ form text => tag form text == .merge
  | _ => false

def nameText? : Node → Option String
  | scalar _ form text =>
    if [Tag.string, .merge, .binary].contains (tag form text) then some text else none
  | _ => none

end Yaml.Node

namespace Config

open Yaml (Fault Node)
open Yaml.Node (Fitted asText asBoolean repeatedKeys)

def typeName : String := "config.Config"

def set (config : Config) (line : Nat) (key : String) (value : Node) :
    Except Fault (Fitted Config) := do
  match key with
  | "prompt" =>
    let (prompt, wrong) ← asText "string" config.prompt value
    pure ({ config with prompt }, wrong)
  | "continuation_prompt" =>
    let (continuationPrompt, wrong) ← asText "string" config.continuationPrompt value
    pure ({ config with continuationPrompt }, wrong)
  | "history_file" =>
    let (historyFile, wrong) ← asText "string" config.historyFile value
    pure ({ config with historyFile }, wrong)
  | "echo" =>
    let (echo, wrong) := asBoolean config.echo value
    pure ({ config with echo }, wrong)
  | "parse_mode" =>
    let (parseMode, wrong) ← asText "config.ParseMode" config.parseMode value
    pure ({ config with parseMode := parseMode.shown }, wrong)
  | "diagnostics" =>
    let (diagnostics, wrong) ← asText "config.DiagnosticsFormat" config.diagnostics value
    pure ({ config with diagnostics := diagnostics.shown }, wrong)
  | _ => pure (config, [s!"line {line}: field " ++ key ++ " not found in type " ++ typeName])

/-- A configuration that is being put together, what is wrong so far, and the keys that a mapping to be
merged no longer sets. -/
structure Draft where
  config : Config := {}
  wrong : List String := []
  settled : List String := []

namespace Draft

def add (draft : Draft) (problems : List String) : Draft :=
  { draft with wrong := draft.wrong ++ problems }

/-- Sets the field of an entry; in a mapping to be merged only if its key is not settled, and then it
is. An entry whose key is null is passed over, and one whose key asks for merging is dealt with
later. -/
def setEntry (merging : Bool) (draft : Draft) (entry : Node × Node) : Except Fault Draft :=
  if entry.1.isMerge then .ok draft
  else match entry.1 with
    | .scalar line form key =>
      if Node.tag form key = .null || (merging && draft.settled.contains key) then .ok draft
      else do
        let (config, wrong) ← draft.config.set line key entry.2
        let settled := if merging then key :: draft.settled else draft.settled
        pure ({ draft with config, settled }.add wrong)
    | other => .ok (draft.add (other.misfit "string"))

mutual

def merge (draft : Draft) : Node → Except Fault Draft
  | .mapping _ entries => draft.mergeMapping entries
  | .sequence _ items => draft.mergeAll items
  | .scalar .. => .error ⟨.unmergeable, 0⟩

def mergeAll (draft : Draft) : List Node → Except Fault Draft
  | [] => .ok draft
  | .mapping _ entries :: rest => do (← draft.mergeMapping entries).mergeAll rest
  | _ :: _ => .error ⟨.unmergeable, 0⟩

/-- Merges a mapping with the mappings that are to be merged into it, which come last. -/
def mergeMapping (draft : Draft) (entries : List (Node × Node)) : Except Fault Draft :=
  match repeatedKeys entries with
  | [] => do (← entries.foldlM (setEntry true) draft).mergeUnder entries
  | repeats => .ok (draft.add repeats)

def mergeUnder (draft : Draft) : List (Node × Node) → Except Fault Draft
  | [] => .ok draft
  | (key, value) :: rest => if key.isMerge then draft.merge value else draft.mergeUnder rest

end

/-- A mapping with what is merged into it. Its own keys go first. -/
def ofMapping (entries : List (Node × Node)) : Except Fault Draft :=
  match repeatedKeys entries with
  | [] => do
    let own ← entries.foldlM (setEntry false) {}
    let settled := entries.filterMap fun entry => entry.1.nameText?
    { own with settled }.mergeUnder entries
  | repeats => .ok { wrong := repeats }

end Draft

def ofNode (node : Node) : Except Fault (Fitted Config) :=
  match node with
  | .mapping _ entries => do
    let draft ← Draft.ofMapping entries
    pure (draft.config, draft.wrong)
  | .scalar _ form text =>
    if Node.tag form text = .null then .ok ({}, []) else .ok ({}, node.misfit typeName)
  | .sequence .. => .ok ({}, node.misfit typeName)

def ofBytes (path : String) (bytes : ByteArray) : Except ConfigError Config := do
  match ← (Yaml.read bytes).mapError (.malformed path) with
  | none => validate { source := path }
  | some node =>
    match ← (ofNode node).mapError (.malformed path) with
    | (config, []) => validate { config with source := path }
    | (_, problems) => throw (.misfit path problems)

def toYaml (config : Config) : String :=
  Yaml.mappingText
    [("prompt", Yaml.scalarText config.prompt),
     ("continuation_prompt", Yaml.scalarText config.continuationPrompt),
     ("history_file", Yaml.scalarText config.historyFile),
     ("echo", if config.echo then "true" else "false"),
     ("parse_mode", Yaml.scalarText config.parseMode),
     ("diagnostics", Yaml.scalarText config.diagnostics)]

end Config

end Scriptlet
