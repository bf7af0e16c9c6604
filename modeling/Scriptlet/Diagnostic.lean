import Scriptlet.Json.Text
import Scriptlet.Text.ByteString

/-! Diagnostics: what is wrong with a program, with a code, a line and a place, as text for a person or
as one JSON object. -/
namespace Scriptlet

structure Diagnostic where
  code : String
  message : ByteString
  line : Int
  place : ByteString
deriving DecidableEq, Repr

namespace Diagnostic

def runtimeCodes : List String :=
  ["E_UNDEFINED", "E_TYPE", "E_DIV_ZERO", "E_INTERNAL"]

def isRuntime (code : String) : Bool :=
  runtimeCodes.contains code

def atEnd : ByteString := "at end"

def atLexeme (lexeme : ByteString) : ByteString := "at '" ++ lexeme ++ "'"

def toText (diagnostic : Diagnostic) : ByteString :=
  if isRuntime diagnostic.code then s!"[Line {diagnostic.line}] Error: " ++ diagnostic.message
  else if diagnostic.line = 0 then "Error: " ++ diagnostic.message
  else
    let place : ByteString := if diagnostic.place.isEmpty then "" else " " ++ diagnostic.place
    s!"[line {diagnostic.line}] Error" ++ place ++ ": " ++ diagnostic.message

/-- One JSON object. A line of 0 and an empty place are left out. -/
def toJson (diagnostic : Diagnostic) : String :=
  "\x7b\"code\":" ++ Json.quote diagnostic.code
    ++ ",\"message\":" ++ Json.quote diagnostic.message.shown
    ++ (if diagnostic.line = 0 then "" else s!",\"line\":{diagnostic.line}")
    ++ (if diagnostic.place.isEmpty then "" else ",\"where\":" ++ Json.quote diagnostic.place.shown)
    ++ "\x7d"

inductive Style
  | text
  | json
deriving DecidableEq, Repr

def render (style : Style) (diagnostic : Diagnostic) : ByteString :=
  match style with
  | .text => diagnostic.toText
  | .json => diagnostic.toJson

def renderAll (style : Style) (diagnostics : List Diagnostic) : ByteString :=
  .intercalate "\n" (diagnostics.map (render style))

def report (style : Style) (diagnostics : List Diagnostic) : ByteString :=
  .unlines (diagnostics.map (render style))

end Diagnostic

abbrev Reporter (m : Type → Type) := Diagnostic → m Unit

def Reporter.discard {m : Type → Type} [Monad m] : Reporter m := fun _ => pure ()

/-- Keeps what is reported to it and, where something listens, writes each diagnostic as it arrives. -/
structure Collector where
  style : Diagnostic.Style
  listening : Bool
  found : List Diagnostic := []

namespace Collector

def report (collector : Collector) (diagnostic : Diagnostic) : Collector × ByteString :=
  ({ collector with found := collector.found ++ [diagnostic] },
    if collector.listening then diagnostic.render collector.style ++ "\n" else "")

def hasErrors (collector : Collector) : Bool := !collector.found.isEmpty

def reset (collector : Collector) : Collector := { collector with found := [] }

end Collector

end Scriptlet
