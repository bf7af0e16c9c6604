import Scriptlet.Text.Base64
import Scriptlet.Text.Quoted
import Scriptlet.Yaml.Tag
import Scriptlet.Yaml.Window

/-! Writing texts as YAML scalars: plain where that reads back as the same text, otherwise in single
quotes, in double quotes if some character needs an escape, and as a block if there is a line feed.
Bytes that are no text are written in base 64. -/
namespace Scriptlet.Yaml

def oldTruthWords : List String :=
  ["y", "Y", "yes", "Yes", "YES", "on", "On", "ON", "n", "N", "no", "No", "NO", "off", "Off", "OFF"]

/-- The places of a number in base 60 after the first: a colon and a value below 60 each, and a fraction
after the last. -/
def isBase60Tail : (afterPlace : Bool) → List Char → Bool
  | afterPlace, [] => afterPlace
  | afterPlace, '.' :: rest => afterPlace && rest.all fun c => Decimal.isFigure c || c = '_'
  | _, ':' :: a :: b :: rest =>
    if Decimal.isFigure a && Decimal.isFigure b then a ≤ '5' && isBase60Tail true rest
    else Decimal.isFigure a && isBase60Tail true (b :: rest)
  | _, [':', a] => Decimal.isFigure a
  | _, _ => false

def isBase60 (text : List Char) : Bool :=
  let unsigned := (Decimal.signed text).2
  unsigned.head?.any Decimal.isFigure
    && isBase60Tail false (unsigned.dropWhile fun c => Decimal.isFigure c || c = '_')

def readsAsText (text : String) : Bool :=
  Tag.ofPlain text == .string && !isBase60 text.toList && !oldTruthWords.contains text

/-- A character that is written as it is. Tabs, control characters, byte order marks and characters
beyond the first plane are not. -/
def isShown (c : Char) : Bool :=
  c = '\n' || (' ' ≤ c && c ≤ '~')
    || ('\u00a0' ≤ c && c.val < 0x10000 && c ≠ '\ufeff' && c ≠ '\ufffe' && c ≠ '\uffff')

def isLeadingIndicator (c : Char) (rest : List Char) : Bool :=
  ['#', ',', '[', ']', '\x7b', '\x7d', '&', '*', '!', '|', '>', '\'', '"', '%', '@', '\x60'].contains c
    || (['?', ':', '-'].contains c && (rest.isEmpty || rest.head?.any isBlank))

def hasInnerIndicator : (afterBlank : Bool) → List Char → Bool
  | _, [] => false
  | afterBlank, c :: rest =>
    (c = ':' && (rest.isEmpty || rest.head?.any isBlank)) || (c = '#' && afterBlank)
      || hasInnerIndicator (isBlank c || isBreak c) rest

def beginsWithMarker : List Char → Bool
  | '-' :: '-' :: '-' :: _ => true
  | '.' :: '.' :: '.' :: _ => true
  | _ => false

def hasSpaceAtBreak : (afterSpace afterBreak : Bool) → List Char → Bool
  | _, _, [] => false
  | afterSpace, afterBreak, c :: rest =>
    if c = ' ' then afterBreak || hasSpaceAtBreak true false rest
    else if isBreak c then afterSpace || hasSpaceAtBreak false true rest
    else hasSpaceAtBreak false false rest

def canBePlain (text : List Char) : Bool :=
  match text with
  | [] => false
  | c :: rest =>
    text.all isShown && !text.any isBreak && !beginsWithMarker text && c ≠ ' '
      && text.getLast? != some ' ' && !isLeadingIndicator c rest
      && !hasInnerIndicator (isBlank c) rest

def canBeSingle (text : List Char) : Bool :=
  text.all isShown && !hasSpaceAtBreak false false text

def canBeBlock (text : List Char) : Bool :=
  text.all (fun c => isShown c || c = '\t') && text.getLast? != some ' '
    && !(text.zip (text.drop 1)).any fun pair => pair.1 = ' ' && isBreak pair.2

def margin : String := "    "

def singleQuoted : (afterBreak : Bool) → List Char → String
  | _, [] => ""
  | afterBreak, c :: rest =>
    if isBreak c then c.toString ++ singleQuoted true rest
    else
      (if afterBreak then margin else "") ++ (if c = '\'' then "''" else c.toString)
        ++ singleQuoted false rest

def upperHex (width value : Nat) : String :=
  (Text.hex width value).toUpper

def escaped (c : Char) : String :=
  match c with
  | '\x00' => "\\0"
  | '\x07' => "\\a"
  | '\x08' => "\\b"
  | '\t' => "\\t"
  | '\n' => "\\n"
  | '\x0b' => "\\v"
  | '\x0c' => "\\f"
  | '\r' => "\\r"
  | '\x1b' => "\\e"
  | '"' => "\\\""
  | '\\' => "\\\\"
  | '\u0085' => "\\N"
  | '\u2028' => "\\L"
  | '\u2029' => "\\P"
  | _ =>
    if isShown c then c.toString
    else if c.val < 0x100 then "\\x" ++ upperHex 2 c.toNat
    else if c.val < 0x10000 then "\\u" ++ upperHex 4 c.toNat
    else "\\U" ++ upperHex 8 c.toNat

def doubleQuoted (text : List Char) : String :=
  "\"" ++ String.join (text.map escaped) ++ "\""

def blockLines : (atStart : Bool) → List Char → String
  | _, [] => ""
  | atStart, c :: rest =>
    if isBreak c then c.toString ++ blockLines true rest
    else (if atStart then margin else "") ++ c.toString ++ blockLines false rest

/-- A block with its header: how deep it is indented, where its first line does not show that, and
which line breaks at its end count. -/
def block (text : List Char) : String :=
  let depth := if text.head?.any fun c => c = ' ' || isBreak c then "4" else ""
  let chomping := match text.reverse with
    | a :: b :: _ => if isBreak a then (if isBreak b then "+" else "") else "-"
    | [a] => if isBreak a then "+" else "-"
    | [] => "-"
  "|" ++ depth ++ chomping ++ "\n" ++ blockLines true text

def textScalar (text : String) : String :=
  let chars := text.toList
  if chars.contains '\n' then (if canBeBlock chars then block chars else doubleQuoted chars)
  else if !readsAsText text then doubleQuoted chars
  else if canBePlain chars then text
  else if canBeSingle chars then "'" ++ singleQuoted false chars ++ "'"
  else doubleQuoted chars

def digitLine : Nat := 70

def inLines (left : Nat) : List Char → List Char
  | [] => if left < digitLine then ['\n'] else []
  | c :: rest =>
    if left ≤ 1 then c :: '\n' :: inLines digitLine rest else c :: inLines (left - 1) rest

def binaryScalar (bytes : ByteArray) : String :=
  let digits := Text.Base64.encode bytes.toList
  "!!binary "
    ++ if digits.length < digitLine then String.ofList digits else block (inLines digitLine digits)

def scalarText : ByteString → String
  | .text value => textScalar value
  | .raw value _ => binaryScalar value

/-- A mapping of scalars already written, each on its line. A block ends its last line itself, unless
that line is cut off. -/
def mappingText (entries : List (String × String)) : String :=
  String.join (entries.map fun entry =>
    entry.1 ++ ": " ++ entry.2 ++ (if entry.2.endsWith "\n" then "" else "\n"))

end Scriptlet.Yaml
