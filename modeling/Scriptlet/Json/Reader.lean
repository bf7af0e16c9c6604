import Scriptlet.Json.Basic

/-! Reading JSON from text. -/
namespace Scriptlet.Json

def isBlank (c : Char) : Bool :=
  c == ' ' || c == '\t' || c == '\n' || c == '\r'

def skipBlanks (text : List Char) : List Char :=
  text.dropWhile isBlank

def isDigit (c : Char) : Bool :=
  '0' ≤ c && c ≤ '9'

def isHex (c : Char) : Bool :=
  isDigit c || ('a' ≤ c && c ≤ 'f') || ('A' ≤ c && c ≤ 'F')

def stringTail? : List Char → Option (List Char × List Char)
  | [] => none
  | '"' :: rest => some ([], rest)
  | '\\' :: escape :: rest =>
    if escape = 'u' then
      if 4 ≤ (rest.take 4).length && (rest.take 4).all isHex then
        (stringTail? rest).map fun (inside, after) => ('\\' :: escape :: inside, after)
      else none
    else if ['"', '\\', '/', 'b', 'f', 'n', 'r', 't'].contains escape then
      (stringTail? rest).map fun (inside, after) => ('\\' :: escape :: inside, after)
    else none
  | c :: rest =>
    if c.val < 0x20 || c == '\\' then none
    else (stringTail? rest).map fun (inside, after) => (c :: inside, after)

def digits? (text : List Char) : Option (List Char × List Char) :=
  match text.takeWhile isDigit with
  | [] => none
  | shown => some (shown, text.dropWhile isDigit)

/-- The whole part of a number: a zero stands alone. -/
def whole? : List Char → Option (List Char × List Char)
  | '0' :: rest => some (['0'], rest)
  | text => digits? text

def fraction? : List Char → Option (List Char × List Char)
  | '.' :: rest => (digits? rest).map fun (shown, after) => ('.' :: shown, after)
  | rest => some ([], rest)

def exponent? : List Char → Option (List Char × List Char)
  | mark :: rest =>
    if mark = 'e' || mark = 'E' then
      match rest with
      | '+' :: after => (digits? after).map fun (shown, last) => (mark :: '+' :: shown, last)
      | '-' :: after => (digits? after).map fun (shown, last) => (mark :: '-' :: shown, last)
      | _ => (digits? rest).map fun (shown, last) => (mark :: shown, last)
    else some ([], mark :: rest)
  | [] => some ([], [])

def number? (text : List Char) : Option (Json × List Char) := do
  let (sign, unsigned) := match text with
    | '-' :: rest => (['-'], rest)
    | rest => ([], rest)
  let (whole, rest) ← whole? unsigned
  let (fraction, rest) ← fraction? rest
  let (exponent, rest) ← exponent? rest
  pure (number (String.ofList (sign ++ whole ++ fraction ++ exponent)), rest)

def items? {α : Type} (close : Char) (item : List Char → Option (α × List Char))
    (text : List Char) : Option (List α × List Char) :=
  match item text with
  | none => none
  | some (first, rest) =>
    match skipBlanks rest with
    | [] => none
    | mark :: after =>
      if mark = close then some ([first], after)
      else if mark = ',' ∧ after.length < text.length then
        match items? close item after with
        | none => none
        | some (others, last) => some (first :: others, last)
      else none
termination_by text.length

def enclosed? {α : Type} (close : Char) (item : List Char → Option (α × List Char))
    (text : List Char) : Option (List α × List Char) :=
  match skipBlanks text with
  | [] => none
  | c :: rest => if c = close then some ([], rest) else items? close item (c :: rest)

def member? (value : List Char → Option (Json × List Char)) (text : List Char) :
    Option ((String × Json) × List Char) :=
  match skipBlanks text with
  | '"' :: rest => do
    let (key, rest) ← stringTail? rest
    match skipBlanks rest with
    | ':' :: rest =>
      let (held, rest) ← value rest
      pure ((String.ofList key, held), rest)
    | _ => none
  | _ => none

/-- A value and the text after it; `room` is how many more arrays and objects may be opened. -/
def value? : Nat → List Char → Option (Json × List Char)
  | room, text =>
    match skipBlanks text with
    | 'n' :: 'u' :: 'l' :: 'l' :: rest => some (null, rest)
    | 't' :: 'r' :: 'u' :: 'e' :: rest => some (bool true, rest)
    | 'f' :: 'a' :: 'l' :: 's' :: 'e' :: rest => some (bool false, rest)
    | '"' :: rest =>
      (stringTail? rest).map fun (literal, after) => (string (String.ofList literal), after)
    | '[' :: rest =>
      match room with
      | 0 => none
      | room + 1 =>
        (enclosed? ']' (value? room) rest).map fun (items, after) => (array items, after)
    | '\x7b' :: rest =>
      match room with
      | 0 => none
      | room + 1 =>
        (enclosed? '\x7d' (member? (value? room)) rest).map fun (members, after) =>
          (object members, after)
    | rest => number? rest

def maxNesting : Nat := 10000

def first? (text : String) : Option Json :=
  (value? maxNesting text.toList).map (·.1)

def read? (text : String) : Option Json :=
  match value? maxNesting text.toList with
  | some (value, rest) => if (skipBlanks rest).isEmpty then some value else none
  | none => none

end Scriptlet.Json
