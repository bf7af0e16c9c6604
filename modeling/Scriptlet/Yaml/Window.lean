import Scriptlet.Yaml.Fault

/-! Going through a YAML text: blanks and line breaks, places, and the part of the text that is held.

The text is taken up in portions, each when a character in it is first asked for. When that happens
the part held is made to begin at the present character. It matters where it begins: as long as it
begins with a byte order mark, the first character of every line is passed over. -/
namespace Scriptlet.Yaml

def isBlank (c : Char) : Bool :=
  c = ' ' || c = '\t'

def isBreak (c : Char) : Bool :=
  c = '\n' || c = '\r' || c = '\u0085' || c = '\u2028' || c = '\u2029'

/-- A text in which a carriage return stands for itself and the line feed after it. One that is alone is
made a line feed. -/
def paired : List Char → List Char
  | [] => []
  | '\r' :: '\n' :: rest => '\r' :: paired rest
  | '\r' :: rest => '\n' :: paired rest
  | c :: rest => c :: paired rest

def width (c : Char) : Nat :=
  if c = '\r' then 2 else 1

def kept (c : Char) : Char :=
  if c = '\r' || c = '\u0085' then '\n' else c

def Place.skip (place : Place) (count : Nat) : Place :=
  ⟨place.line, place.column + count, place.index + count⟩

def Place.after (place : Place) (c : Char) : Place :=
  if isBreak c then ⟨place.line + 1, 0, place.index + width c⟩ else place.skip 1

def atGap : List Char → Bool
  | [] => true
  | c :: _ => isBlank c || isBreak c

/-- Three dashes or dots that stand alone: at the start of a line they begin or end a document. -/
def isMarker : List Char → Bool
  | '-' :: '-' :: '-' :: rest => atGap rest
  | '.' :: '.' :: '.' :: rest => atGap rest
  | _ => false

def byteOrderMark : Char := '\ufeff'

/-- The part of a text that is held: up to which index it goes, whether it begins with a byte order
mark, and the sizes of the portions that come after it. -/
structure Window where
  reach : Nat := 0
  marked : Bool := false
  portions : List Nat := []

def takeUp (goal : Nat) : Nat → List Nat → Nat × List Nat
  | reach, [] => (reach + 1, [])
  | reach, size :: rest =>
    if goal ≤ reach + size then (reach + size, rest) else takeUp goal (reach + size) rest

structure Position where
  place : Place := {}
  window : Window := {}

namespace Position

def look (position : Position) (count : Nat) (text : List Char) : Position :=
  let goal := position.place.index + count
  if goal ≤ position.window.reach then position
  else
    let (reach, portions) := takeUp goal position.window.reach position.window.portions
    { position with window := ⟨reach, text.head? == some byteOrderMark, portions⟩ }

def skip (position : Position) (count : Nat) : Position :=
  { position with place := position.place.skip count }

def after (position : Position) (c : Char) : Position :=
  { position with place := position.place.after c }

def afterGap (position : Position) (c : Char) (rest : List Char) : Position :=
  let ready := if isBreak c then position.look 2 (c :: rest) else position
  (ready.after c).look 1 rest

end Position

end Scriptlet.Yaml
