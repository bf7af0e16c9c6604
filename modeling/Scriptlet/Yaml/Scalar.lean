import Scriptlet.Yaml.Window

/-! The scalars of a YAML text: plain, quoted, and block scalars. A line break inside a plain or a quoted
scalar is folded: one break counts as a space, and of several all but the first are kept. -/
namespace Scriptlet.Yaml

/-- The blanks and breaks read since a scalar's last character. Blanks before a break do not count, and
an escaped break has no `first`. -/
structure Gap where
  blanks : List Char := []
  broken : Bool := false
  first : Option Char := none
  others : List Char := []

namespace Gap

def add (gap : Gap) (c : Char) : Gap :=
  if isBreak c then
    if gap.broken then { gap with others := gap.others ++ [kept c] }
    else { broken := true, first := some (kept c) }
  else if gap.broken then gap
  else { gap with blanks := gap.blanks ++ [c] }

def text (gap : Gap) : List Char :=
  if gap.broken then
    match gap.first with
    | some '\n' => if gap.others.isEmpty then [' '] else gap.others
    | some c => c :: gap.others
    | none => gap.others
  else gap.blanks

end Gap

structure Scalar where
  text : String
  position : Position
  rest : List Char
  broken : Bool := false

def isFlowMark (c : Char) : Bool :=
  c = ',' || c = '?' || c = '[' || c = ']' || c = '\x7b' || c = '\x7d'

def endsPlain (inFlow : Bool) (c : Char) (rest : List Char) : Bool :=
  (c = ':' && atGap rest) || (inFlow && isFlowMark c)

def endsAfterGap (place : Place) (text : List Char) : Bool :=
  (place.column = 0 && isMarker text) || text.head? == some '#'

/-- The rest of a plain scalar; `text` is what was read of it, last character first, and `gap` what
came after that. In a block it has to be indented. -/
def readPlain (inFlow : Bool) (indent : Nat) (start : Place) (position : Position) (text : List Char)
    (gap : Gap) (afterGap : Bool) : List Char → Except Fault Scalar
  | [] => .ok ⟨String.ofList text.reverse, position, [], gap.broken⟩
  | c :: rest =>
    if isBlank c || isBreak c then
      if c = '\t' && gap.broken && position.place.column < indent then
        .error (.inText .tabInPlain start position.place)
      else
        readPlain inFlow indent start (position.afterGap c rest) text (gap.add c) true rest
    else if afterGap && !inFlow && position.place.column < indent then
      .ok ⟨String.ofList text.reverse, position, c :: rest, gap.broken⟩
    else
      let here := if afterGap then position.look 4 (c :: rest) else position
      if (afterGap && endsAfterGap here.place (c :: rest)) || endsPlain inFlow c rest then
        .ok ⟨String.ofList text.reverse, here, c :: rest, gap.broken⟩
      else
        readPlain inFlow indent start ((here.after c).look 2 rest) (c :: gap.text.reverse ++ text) {}
          false rest

def Position.atWord (position : Position) (afterGap : Bool) (text : List Char) : Position :=
  if afterGap then position.look 4 text else position

def readSingle (start : Place) (position : Position) (text : List Char) (gap : Gap)
    (afterGap : Bool) : List Char → Except Fault Scalar
  | [] => .error (.inText .endInQuotes start position.place)
  | '\'' :: '\'' :: rest =>
    let here := position.atWord afterGap ('\'' :: '\'' :: rest)
    readSingle start ((here.skip 2).look 2 rest) ('\'' :: gap.text.reverse ++ text) {} false rest
  | '\'' :: rest =>
    .ok
      { text := String.ofList (gap.text.reverse ++ text).reverse
        position := (position.atWord afterGap ('\'' :: rest)).skip 1
        rest }
  | c :: rest =>
    if position.place.column = 0 && isMarker (c :: rest) then
      .error (.inText .markerInQuotes start position.place)
    else if isBlank c || isBreak c then
      readSingle start (position.afterGap c rest) text (gap.add c) true rest
    else
      let here := position.atWord afterGap (c :: rest)
      readSingle start ((here.after c).look 2 rest) (c :: gap.text.reverse ++ text) {} false rest

def unescape? (c : Char) : Option Char :=
  match c with
  | '0' => some '\x00'
  | 'a' => some '\x07'
  | 'b' => some '\x08'
  | 't' | '\t' => some '\t'
  | 'n' => some '\n'
  | 'v' => some '\x0b'
  | 'f' => some '\x0c'
  | 'r' => some '\r'
  | 'e' => some '\x1b'
  | ' ' => some ' '
  | '"' => some '"'
  | '\'' => some '\''
  | '\\' => some '\\'
  | 'N' => some '\u0085'
  | '_' => some '\u00a0'
  | 'L' => some '\u2028'
  | 'P' => some '\u2029'
  | _ => none

def hexDigit? (c : Char) : Option Nat :=
  if '0' ≤ c && c ≤ '9' then some (c.toNat - '0'.toNat)
  else if 'a' ≤ c && c ≤ 'f' then some (c.toNat - 'a'.toNat + 10)
  else if 'A' ≤ c && c ≤ 'F' then some (c.toNat - 'A'.toNat + 10)
  else none

def escapedChar (digits : List Char) : Except Cause Char :=
  match digits.mapM hexDigit? with
  | none => .error .missingHexDigit
  | some values =>
    let code := values.foldl (fun code value => code * 16 + value) 0
    if h : code.isValidChar then .ok (Char.ofNatAux code h) else .error .invalidEscapeCode

def escape (text : List Char) : Except Cause (Char × Nat) :=
  match text with
  | 'x' :: rest => (escapedChar (rest.take 2)).map (·, 3)
  | 'u' :: rest => (escapedChar (rest.take 4)).map (·, 5)
  | 'U' :: rest => (escapedChar (rest.take 8)).map (·, 9)
  | c :: _ =>
    match unescape? c with
    | some value => .ok (value, 1)
    | none => .error .unknownEscape
  | [] => .error .unknownEscape

def Position.afterEscape (position : Position) (length : Nat) (rest : List Char) : Position :=
  let digits := length - 1
  (((position.skip 2).look digits (rest.drop 1)).skip digits).look 2 (rest.drop length)

/-- The rest of a scalar in double quotes; the next `skip` characters belong to an escape already
read. -/
def readDouble (start : Place) (position : Position) (text : List Char) (gap : Gap)
    (afterGap : Bool) : Nat → List Char → Except Fault Scalar
  | _, [] => .error (.inText .endInQuotes start position.place)
  | skip + 1, _ :: rest => readDouble start position text gap afterGap skip rest
  | 0, '"' :: rest =>
    .ok
      { text := String.ofList (gap.text.reverse ++ text).reverse
        position := (position.atWord afterGap ('"' :: rest)).skip 1
        rest }
  | 0, '\\' :: rest =>
    let here := position.atWord afterGap ('\\' :: rest)
    let text := gap.text.reverse ++ text
    match rest.head?.filter isBreak, escape rest with
    | some c, _ =>
      let next := (((here.look 3 ('\\' :: rest)).skip 1).after c).look 1 (rest.drop 1)
      readDouble start next text { broken := true } true 1 rest
    | none, .ok (value, length) =>
      readDouble start (here.afterEscape length rest) (value :: text) {} false length rest
    | none, .error cause => .error (.inText cause start here.place)
  | 0, c :: rest =>
    if position.place.column = 0 && isMarker (c :: rest) then
      .error (.inText .markerInQuotes start position.place)
    else if isBlank c || isBreak c then
      readDouble start (position.afterGap c rest) text (gap.add c) true 0 rest
    else
      let here := position.atWord afterGap (c :: rest)
      readDouble start ((here.after c).look 2 rest) (c :: gap.text.reverse ++ text) {} false 0 rest

inductive Chomping
  | strip
  | clip
  | keep
deriving DecidableEq, Repr

structure BlockHeader where
  literal : Bool
  chomping : Chomping := .clip
  /-- The indentation if it is given, counted from the surrounding one. -/
  indentation : Option Nat := none

def blockHeader (literal : Bool) (text : List Char) : Except Cause (BlockHeader × List Char) :=
  let chomping? (c : Char) : Option Chomping :=
    if c = '+' then some .keep else if c = '-' then some .strip else none
  let digit (c : Char) : Bool := '0' ≤ c && c ≤ '9'
  let value (c : Char) : Nat := c.toNat - '0'.toNat
  match text with
  | a :: rest =>
    match chomping? a with
    | some chomping =>
      match rest with
      | b :: more =>
        if digit b then
          if b = '0' then .error .zeroIndentation
          else .ok (⟨literal, chomping, some (value b)⟩, more)
        else .ok (⟨literal, chomping, none⟩, rest)
      | [] => .ok (⟨literal, chomping, none⟩, rest)
    | none =>
      if digit a then
        if a = '0' then .error .zeroIndentation
        else match rest with
          | b :: more =>
            match chomping? b with
            | some chomping => .ok (⟨literal, chomping, some (value a)⟩, more)
            | none => .ok (⟨literal, .clip, some (value a)⟩, rest)
          | [] => .ok (⟨literal, .clip, some (value a)⟩, rest)
      else .ok (⟨literal, .clip, none⟩, text)
  | [] => .ok (⟨literal, .clip, none⟩, [])

/-- A block scalar being read. `text` is last character first; `first` and `others` are the breaks
since its last line, as in a gap; `indent` is 0 until it is known, and `widest` is the most
indentation seen till then. -/
structure BlockState where
  text : List Char := []
  first : Option Char := none
  others : List Char := []
  indent : Nat
  widest : Nat := 0
  inLine : Bool := false
  lineBeganBlank : Bool := false

namespace BlockState

/-- Starts a line with the character `c`: the breaks before it are kept or, between two lines of a
folded scalar that begin with no blank, folded. -/
def startLine (literal : Bool) (state : BlockState) (indent : Nat) (c : Char) : BlockState :=
  let folds := !literal && !state.lineBeganBlank && !isBlank c && state.first == some '\n'
  let before :=
    if folds then (if state.others.isEmpty then [' '] else state.others)
    else state.first.toList ++ state.others
  { state with
    text := c :: before.reverse ++ state.text
    first := none
    others := []
    indent
    inLine := true
    lineBeganBlank := isBlank c }

def finish (chomping : Chomping) (state : BlockState) : String :=
  let kept := match chomping with
    | .strip => []
    | .clip => state.first.toList
    | .keep => state.first.toList ++ state.others
  String.ofList (state.text.reverse ++ kept)

end BlockState

def readBlock (header : BlockHeader) (parent : Nat) (start : Place) (position : Position)
    (state : BlockState) : List Char → Except Fault Scalar
  | [] => .ok ⟨state.finish header.chomping, position, [], true⟩
  | c :: rest =>
    let column := position.place.column
    let next := position.afterGap c rest
    if state.inLine then
      if isBreak c then
        readBlock header parent start next { state with inLine := false, first := some (kept c) } rest
      else readBlock header parent start next { state with text := c :: state.text } rest
    else if isBreak c then
      readBlock header parent start next
        { state with
          others := state.others ++ [kept c]
          widest := max state.widest column } rest
    else
      let inMargin := state.indent = 0 || column < state.indent
      if inMargin && c = ' ' then readBlock header parent start next state rest
      else if inMargin && c = '\t' then .error (.inText .tabInBlock start position.place)
      else
        let indent :=
          if state.indent = 0 then max (max state.widest column) (max parent 1) else state.indent
        if column = indent then
          readBlock header parent start next (state.startLine header.literal indent c) rest
        else .ok ⟨state.finish header.chomping, position, c :: rest, true⟩

end Scriptlet.Yaml
