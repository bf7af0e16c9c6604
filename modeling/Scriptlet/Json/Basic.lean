import Scriptlet.Json.Text

/-! JSON values as they are written: numbers and strings keep their source text, so that a value can be
written out again unchanged but for the blanks between its parts. -/
namespace Scriptlet

/-- `number` and `string` hold the text of a literal, a string without its quotes. -/
inductive Json
  | null
  | bool (value : Bool)
  | number (literal : String)
  | string (literal : String)
  | array (items : List Json)
  | object (members : List (String × Json))

namespace Json

def hexValue (c : Char) : Nat :=
  if '0' ≤ c && c ≤ '9' then c.toNat - '0'.toNat
  else if 'a' ≤ c && c ≤ 'f' then c.toNat - 'a'.toNat + 10
  else c.toNat - 'A'.toNat + 10

def unit (a b c d : Char) : Nat :=
  ((hexValue a * 16 + hexValue b) * 16 + hexValue c) * 16 + hexValue d

def isHighSurrogate (code : Nat) : Bool := 0xD800 ≤ code && code < 0xDC00

def isLowSurrogate (code : Nat) : Bool := 0xDC00 ≤ code && code < 0xE000

/-- A code unit that stands alone; a surrogate does not, and is replaced. -/
def lone (code : Nat) : Char :=
  if isHighSurrogate code || isLowSurrogate code then '\ufffd' else Char.ofNat code

def paired (high low : Nat) : Char :=
  Char.ofNat (0x10000 + (high - 0xD800) * 0x400 + (low - 0xDC00))

def unescape (c : Char) : Char :=
  match c with
  | 'b' => '\x08'
  | 'f' => '\x0c'
  | 'n' => '\n'
  | 'r' => '\r'
  | 't' => '\t'
  | _ => c

inductive Part
  | char (value : Char)
  | unit (code : Nat)

def parts : List Char → List Part
  | [] => []
  | '\\' :: 'u' :: a :: b :: c :: d :: rest => .unit (unit a b c d) :: parts rest
  | '\\' :: c :: rest => .char (unescape c) :: parts rest
  | c :: rest => .char c :: parts rest

/-- The characters of the parts; two code units that are a pair of surrogates are one character. -/
def joined : List Part → List Char
  | [] => []
  | .char value :: rest => value :: joined rest
  | [.unit code] => [lone code]
  | .unit code :: .char value :: rest => lone code :: value :: joined rest
  | .unit high :: .unit low :: rest =>
    if isHighSurrogate high && isLowSurrogate low then paired high low :: joined rest
    else lone high :: joined (.unit low :: rest)

def decode (literal : List Char) : List Char :=
  joined (parts literal)

def decodeText (literal : String) : String :=
  String.ofList (decode literal.toList)

/-- A literal's text made safe for a web page; the escapes it has are kept. -/
def harmless (literal : String) : String :=
  String.join (literal.toList.map fun c =>
    match c with
    | '<' | '>' | '&' | '\u2028' | '\u2029' => "\\u" ++ Text.hex 4 c.toNat
    | _ => c.toString)

mutual

def compact : Json → String
  | null => "null"
  | bool value => if value then "true" else "false"
  | number literal => literal
  | string literal => "\"" ++ harmless literal ++ "\""
  | array items => "[" ++ compactItems items ++ "]"
  | object members => "\x7b" ++ compactMembers members ++ "\x7d"

def compactItems : List Json → String
  | [] => ""
  | [item] => item.compact
  | item :: rest => item.compact ++ "," ++ compactItems rest

def compactMembers : List (String × Json) → String
  | [] => ""
  | [(key, value)] => "\"" ++ harmless key ++ "\":" ++ value.compact
  | (key, value) :: rest =>
    "\"" ++ harmless key ++ "\":" ++ value.compact ++ "," ++ compactMembers rest

end

end Json

end Scriptlet
