import Scriptlet.FileTree
import Scriptlet.Json.Record
import Scriptlet.Text.Utf8

/-! Scenarios: a command line with the outcome that is expected of it, kept in a directory of its own
together with the files it uses. -/
namespace Scriptlet

structure Expectation where
  exitCode : Int := 0
  stdoutText : Option String := none
  stdoutContains : String := ""
  stderrText : Option String := none
  stderrContains : String := ""
  stderrSubset : Option Json := none

structure Scenario where
  arguments : Option (List String) := none
  stdin : String := ""
  /-- Tags, if the scenario has a place for them. -/
  tags : Option (List String) := none
  expected : Expectation := {}

namespace Expectation

def asOptionalText? : Json → Option (Option String)
  | .null => some none
  | json => (json.asText? "").map some

def setField (old : Expectation) (name : String) (json : Json) : Option Expectation :=
  match name with
  | "exitcode" => do pure { old with exitCode := ← json.asInteger? old.exitCode }
  | "stdouttext" => do pure { old with stdoutText := ← asOptionalText? json }
  | "stdoutcontains" => do pure { old with stdoutContains := ← json.asText? old.stdoutContains }
  | "stderrtext" => do pure { old with stderrText := ← asOptionalText? json }
  | "stderrcontains" => do pure { old with stderrContains := ← json.asText? old.stderrContains }
  | "stderrjsonsubset" => some { old with stderrSubset := some json }
  | _ => some old

def textMember (name text : String) : List String :=
  if text.isEmpty then [] else ["\"" ++ name ++ "\":" ++ Json.quote text]

def optionalMember (name : String) (text : Option String) : List String :=
  (text.map fun text => "\"" ++ name ++ "\":" ++ Json.quote text).toList

def toJson (expected : Expectation) : String :=
  "\x7b" ++ ",".intercalate
    ([s!"\"exitCode\":{expected.exitCode}"]
      ++ optionalMember "stdoutText" expected.stdoutText
      ++ textMember "stdoutContains" expected.stdoutContains
      ++ optionalMember "stderrText" expected.stderrText
      ++ textMember "stderrContains" expected.stderrContains
      ++ (expected.stderrSubset.map ("\"stderrJsonSubset\":" ++ ·.compact)).toList) ++ "\x7d"

end Expectation

namespace Scenario

def setTags (old : List String) (name : String) (json : Json) : Option (List String) :=
  match name with
  | "tags" => do pure ((← json.asTexts?).getD [])
  | _ => some old

def asTags? (old : Option (List String)) : Json → Option (Option (List String))
  | .null => some none
  | json => (json.asRecord? (old.getD []) setTags).map some

def setField (old : Scenario) (name : String) (json : Json) : Option Scenario :=
  match name with
  | "cmd" => do pure { old with arguments := ← json.asTexts? }
  | "stdin" => do pure { old with stdin := ← json.asText? old.stdin }
  | "meta" => do pure { old with tags := ← asTags? old.tags json }
  | "expect" => do pure { old with expected := ← json.asRecord? old.expected Expectation.setField }
  | _ => some old

def ofText? (text : String) : Option Scenario := do
  (← Json.read? text).asRecord? {} setField

def textList (texts : List String) : String :=
  "[" ++ ",".intercalate (texts.map Json.quote) ++ "]"

def tagsJson (tags : List String) : String :=
  "\x7b" ++ (if tags.isEmpty then "" else "\"tags\":" ++ textList tags) ++ "\x7d"

def toJson (scenario : Scenario) : String :=
  "\x7b\"cmd\":" ++ (match scenario.arguments with | some texts => textList texts | none => "null")
    ++ (if scenario.stdin.isEmpty then "" else ",\"stdin\":" ++ Json.quote scenario.stdin)
    ++ (match scenario.tags with | some tags => ",\"meta\":" ++ tagsJson tags | none => "")
    ++ ",\"expect\":" ++ scenario.expected.toJson ++ "\x7d"

def fileName : String := "scenario.json"

def directories? (tree : FileTree) (start : List String) (root : String) : Option (List String) :=
  match tree.locate start root with
  | .error _ => none
  | .ok place =>
    if tree.isDirectory place then
      some (((tree.children place).filter fun name =>
        tree.isDirectory (place ++ [name]) && (tree.entry? (place ++ [name, fileName])).isSome).map
          (Path.join root))
    else none

def load? (tree : FileTree) (start : List String) (directory : String) : Option Scenario :=
  match tree.read start (Path.join directory fileName) with
  | .ok bytes => ofText? (Text.ofBytes bytes)
  | .error _ => none

def isFile (tree : FileTree) (start : List String) (path : String) : Bool :=
  match tree.find? start path with
  | some .directory => false
  | some _ => true
  | none => false

/-- An argument that names a file of the scenario is replaced by the path of that file. -/
def resolve (tree : FileTree) (start : List String) (directory argument : String) : String :=
  let path := Path.join directory argument
  if argument.toList.head? != some '-' && isFile tree start path then path else argument

end Scenario

end Scriptlet
