import Scriptlet.Yaml.Encoding
import Scriptlet.Yaml.Scalar
import Scriptlet.Yaml.Token

/-! Finding the tokens of a YAML text. Indentation is turned into tokens that open and close block
collections. A scalar or a flow collection becomes a mapping's key when a colon follows it on its
line, so a key token is put in front of it then. Tokens are found only as they are asked for, so that
a fault in the text counts no earlier than somebody gets near it. -/
namespace Scriptlet.Yaml

/-- The token that a colon could make a key, at one level of flow collections: its number among all
tokens, and its place. It is required where nothing but a key can stand. -/
structure KeySlot where
  possible : Bool := false
  required : Bool := false
  number : Nat := 0
  place : Place := {}

/-- A text of `size` characters read up to `rest`. `queue` holds the tokens that were found and not yet handed out, after
the first `taken` tokens. `indents` are the columns of the open block collections, innermost first.
`slot` is the possible key at the present level, `outer` those at the levels outside it, one for each
open flow collection; `awaited` are the numbers of tokens that are not handed out until it is known
whether they are keys. -/
structure Scanner where
  size : Nat
  rest : List Char
  position : Position := {}
  queue : List PlacedToken := []
  taken : Nat := 0
  indents : List Nat := []
  slot : KeySlot := {}
  outer : List KeySlot := []
  awaited : List Nat := []
  keyAllowed : Bool := true

namespace Scanner

def place (scanner : Scanner) : Place :=
  scanner.position.place

def inFlow (scanner : Scanner) : Bool :=
  !scanner.outer.isEmpty

def number (scanner : Scanner) : Nat :=
  scanner.taken + scanner.queue.length

def push (scanner : Scanner) (token : Token) : Scanner :=
  { scanner with queue := scanner.queue ++ [⟨token, scanner.place⟩] }

def insert (scanner : Scanner) (number : Nat) (placed : PlacedToken) : Scanner :=
  let before := if number < scanner.taken then scanner.queue.length else number - scanner.taken
  { scanner with queue := scanner.queue.take before ++ placed :: scanner.queue.drop before }

def look (scanner : Scanner) (count : Nat) : Scanner :=
  { scanner with position := scanner.position.look count scanner.rest }

def skip (scanner : Scanner) (count : Nat) : Scanner :=
  { scanner with rest := scanner.rest.drop count, position := scanner.position.skip count }

def pass : Nat → Scanner → Scanner
  | 0, scanner => scanner.look 1
  | count + 1, scanner =>
    let held := scanner.look 1
    match held.rest with
    | c :: rest =>
      let ready := if isBreak c then held.look 2 else held
      pass count { ready with rest, position := ready.position.after c }
    | [] => held

def fail {α : Type} (scanner : Scanner) (cause : Cause) : Except Fault α :=
  .error (.inText cause scanner.place scanner.place)

/-- Passes over the first character of a line as if it were a byte order mark. A line break loses its
meaning that way, and of two characters for one break only the first is passed over. -/
def skipMark (scanner : Scanner) : Scanner :=
  let rest := match scanner.rest with
    | '\r' :: rest => '\n' :: rest
    | rest => rest.drop 1
  { scanner with rest, position := scanner.position.skip 1 }

def commentReach : Nat := 512

def lookTo (scanner : Scanner) (start offset : Nat) : Scanner :=
  (List.range (offset + 1 - start)).foldl (fun held step => held.look (start + step + 1)) scanner

/-- A comment further on, past blanks and breaks only: how many characters there are before it, and
how far one had to look. -/
def commentAhead (offset count : Nat) : List Char → Option Nat × Nat
  | [] => (none, offset)
  | c :: rest =>
    if commentReach ≤ offset then (none, commentReach - 1)
    else if c = '#' then (some count, offset)
    else if isBlank c || c = '\n' || c = '\r' then commentAhead (offset + width c) (count + 1) rest
    else (none, offset)

def commentLength (text : List Char) : Nat :=
  (text.takeWhile (!isBreak ·)).length

def comments : (room : Nat) → Scanner → Scanner
  | 0, scanner => scanner
  | room + 1, scanner =>
    let ended := scanner.pass (commentLength scanner.rest)
    let (found, offset) := match ended.rest with
      | [] => (none, 1)
      | c :: rest => if c = '\n' || c = '\r' then commentAhead (width c) 1 rest else (none, 1)
    let looked := ended.lookTo 1 offset
    match found with
    | some count => comments room (looked.pass count)
    | none => looked

def lineComment (scanner : Scanner) : Scanner :=
  let blanks := (scanner.rest.takeWhile isBlank).length
  let looked := scanner.lookTo 0 (if blanks < commentReach then blanks else commentReach - 1)
  let after := scanner.rest.drop blanks
  if blanks < commentReach && after.head? == some '#' then looked.pass (blanks + commentLength after)
  else looked

/-- A blank between tokens. A tab does not count where it could be taken for indentation. -/
def isGapBlank (scanner : Scanner) (c : Char) : Bool :=
  c = ' ' || (c = '\t' && (scanner.inFlow || !scanner.keyAllowed))

def toToken : (room : Nat) → Scanner → Scanner
  | 0, scanner => scanner
  | room + 1, scanner =>
    let held := scanner.look 1
    let begun := if held.place.column = 0 && held.position.window.marked then held.skipMark else held
    let reached := begun.pass (begun.rest.takeWhile begun.isGapBlank).length
    let ended := if reached.rest.head? == some '#' then comments room reached else reached
    if ended.rest.head?.any isBreak then
      toToken room { ended.pass 1 with keyAllowed := ended.keyAllowed || !ended.inFlow }
    else ended

def closedBy (column : Nat) (indents : List Nat) : Nat :=
  (indents.takeWhile fun indent => column < indent).length

def close (scanner : Scanner) (count : Nat) : Scanner :=
  { scanner with
    queue := scanner.queue ++ List.replicate count ⟨.blockEnd, scanner.place⟩
    indents := scanner.indents.drop count }

def dedent (scanner : Scanner) : Scanner :=
  if scanner.inFlow then scanner
  else scanner.close (closedBy scanner.place.column scanner.indents)

def closeAll (scanner : Scanner) : Scanner :=
  if scanner.inFlow then scanner else scanner.close scanner.indents.length

def maxDepth : Nat := 10000

def indent (scanner : Scanner) (place : Place) (number : Nat) (token : Token) :
    Except Fault Scanner :=
  if scanner.inFlow || scanner.indents.head?.any (place.column ≤ ·) then .ok scanner
  else if maxDepth ≤ scanner.indents.length then scanner.fail (.tooDeep maxDepth)
  else .ok { scanner.insert number ⟨token, place⟩ with indents := place.column :: scanner.indents }

def clearKey (scanner : Scanner) : Scanner :=
  { scanner with
    slot := { scanner.slot with possible := false }
    awaited := scanner.awaited.filter (· ≠ scanner.slot.number) }

def dropKey (scanner : Scanner) : Except Fault Scanner :=
  if !scanner.slot.possible then .ok scanner
  else if scanner.slot.required then .error (.inText .missingColon scanner.slot.place scanner.place)
  else .ok scanner.clearKey

def offerKey (scanner : Scanner) : Except Fault Scanner :=
  if scanner.keyAllowed then do
    let cleared ← scanner.dropKey
    let required := !scanner.inFlow && scanner.indents.head? == some scanner.place.column
    pure
      { cleared with
        slot := ⟨true, required, scanner.number, scanner.place⟩
        awaited := scanner.number :: cleared.awaited }
  else pure scanner

/-- A possible key is still one, unless the text has gone on to another line or for more than 1024
characters. -/
def isLive (scanner : Scanner) (slot : KeySlot) : Except Fault Bool :=
  if !slot.possible then .ok false
  else if slot.place.line < scanner.place.line || slot.place.index + 1024 < scanner.place.index then
    if slot.required then .error (.inText .missingColon slot.place scanner.place) else .ok false
  else .ok true

def documentMark (scanner : Scanner) (token : Token) : Except Fault Scanner := do
  let closed ← scanner.closeAll.dropKey
  pure ({ closed with keyAllowed := false }.push token |>.skip 3)

def openFlow (scanner : Scanner) (token : Token) : Except Fault Scanner := do
  let offered ← scanner.offerKey
  if maxDepth ≤ scanner.outer.length then scanner.fail (.tooDeep maxDepth)
  pure
    ({ offered with
      slot := { number := offered.number }
      outer := offered.slot :: offered.outer
      keyAllowed := true }.push token |>.skip 1)

def closeFlow (scanner : Scanner) (token : Token) : Except Fault Scanner := do
  let cleared ← scanner.dropKey
  let left := match cleared.outer with
    | slot :: outer => { cleared.clearKey with slot, outer }
    | [] => cleared
  pure ({ left with keyAllowed := false }.push token |>.skip 1)

def flowEntry (scanner : Scanner) : Except Fault Scanner := do
  let cleared ← scanner.dropKey
  pure ({ cleared with keyAllowed := true }.push .flowEntry |>.skip 1)

def blockEntry (scanner : Scanner) : Except Fault Scanner := do
  if !scanner.inFlow && !scanner.keyAllowed then scanner.fail .misplacedEntry
  else
    let opened ← scanner.indent scanner.place scanner.number .sequenceStart
    let cleared ← opened.dropKey
    pure ({ cleared with keyAllowed := true }.push .blockEntry |>.skip 1)

def explicitKey (scanner : Scanner) : Except Fault Scanner := do
  if !scanner.inFlow && !scanner.keyAllowed then scanner.fail .misplacedKey
  else
    let opened ← scanner.indent scanner.place scanner.number .mappingStart
    let cleared ← opened.dropKey
    pure ({ cleared with keyAllowed := !scanner.inFlow }.push .key |>.skip 1)

/-- A colon: it makes a key of the possible key, or else stands after an empty one. -/
def value (scanner : Scanner) : Except Fault Scanner := do
  let slot := scanner.slot
  if ← scanner.isLive slot then
    let keyed := scanner.insert slot.number ⟨.key, slot.place⟩
    let opened ← keyed.indent slot.place slot.number .mappingStart
    pure ({ opened.clearKey with keyAllowed := false }.push .value |>.skip 1)
  else if !scanner.inFlow && !scanner.keyAllowed then scanner.fail .misplacedValue
  else
    let opened ← scanner.clearKey.indent scanner.place scanner.number .mappingStart
    pure ({ opened with keyAllowed := !scanner.inFlow }.push .value |>.skip 1)

def addScalar (scanner : Scanner) (quoted : Bool) (scalar : Scalar) : Scanner :=
  { scanner.push (.scalar quoted scalar.text) with position := scalar.position, rest := scalar.rest }

def quoted (scanner : Scanner) (double : Bool) : Except Fault Scanner := do
  let offered ← scanner.offerKey
  let inside := offered.skip 1
  let scalar ←
    if double then readDouble scanner.place inside.position [] {} true 0 inside.rest
    else readSingle scanner.place inside.position [] {} true inside.rest
  pure { offered.addScalar true scalar with keyAllowed := false }

def plain (scanner : Scanner) : Except Fault Scanner := do
  let offered ← scanner.offerKey
  let least := (scanner.indents.head?.map (· + 1)).getD 0
  let scalar ← readPlain scanner.inFlow least scanner.place scanner.position [] {} false scanner.rest
  pure { offered.addScalar false scalar with keyAllowed := scalar.broken }

def block (scanner : Scanner) (literal : Bool) : Except Fault Scanner := do
  let cleared ← scanner.dropKey
  let fault (cause : Cause) : Fault := .inText cause scanner.place scanner.place
  let (header, afterHeader) ← (blockHeader literal (scanner.rest.drop 1)).mapError fault
  let signed := cleared.skip (scanner.rest.length - afterHeader.length)
  let blanks := (afterHeader.takeWhile isBlank).length
  let afterBlanks := afterHeader.drop blanks
  let comment := if afterBlanks.head? == some '#' then commentLength afterBlanks else 0
  let headed := signed.pass (blanks + comment)
  if headed.rest.head?.any (!isBreak ·) then throw (fault .missingLineBreak)
  let below := headed.pass 1
  let parent := (scanner.indents.head?.map (· + 1)).getD 0
  let given := match header.indentation with
    | some more => scanner.indents.head?.getD 0 + more
    | none => 0
  let scalar ← readBlock header parent scanner.place below.position { indent := given } below.rest
  pure
    { cleared.push (.scalar true scalar.text) with
      position := scalar.position
      rest := scalar.rest
      keyAllowed := true }

def tag (scanner : Scanner) : Except Fault Scanner := do
  let offered ← scanner.offerKey
  let name := scanner.rest.takeWhile fun c => !isBlank c && !isBreak c
  if name ≠ "!!binary".toList then scanner.fail .unsupported
  pure ({ offered with keyAllowed := false }.push .binaryMark |>.skip name.length)

def isNameChar (c : Char) : Bool :=
  c.isAlphanum || c = '_' || c = '-'

def versionNumber (text : List Char) : Except Cause (Nat × List Char) :=
  let digits := text.takeWhile Char.isDigit
  if 2 < digits.length then .error .longVersion
  else if digits.isEmpty then .error .missingVersion
  else .ok (digits.foldl (fun value c => value * 10 + (c.toNat - '0'.toNat)) 0, text.drop digits.length)

def version (text : List Char) : Except Cause (Token × List Char) := do
  let (major, rest) ← versionNumber (text.dropWhile isBlank)
  match rest with
  | '.' :: rest =>
    let (minor, rest) ← versionNumber rest
    pure (.version major minor, rest)
  | _ => throw .missingVersionPoint

def directive (scanner : Scanner) : Except Fault Scanner := do
  let closed ← scanner.closeAll.dropKey
  let fault (cause : Cause) : Fault := .inText cause scanner.place scanner.place
  let afterMark := scanner.rest.drop 1
  let name := afterMark.takeWhile isNameChar
  let afterName := afterMark.drop name.length
  if name.isEmpty then throw (fault .missingDirectiveName)
  if !atGap afterName then throw (fault .invalidDirectiveName)
  if name = "TAG".toList then throw (fault .unsupported)
  if name ≠ "YAML".toList then throw (fault .unknownDirective)
  let (token, afterVersion) ← (version afterName).mapError fault
  let read := { closed with keyAllowed := false }.push token
    |>.skip (scanner.rest.length - afterVersion.length)
  let blanks := (afterVersion.takeWhile isBlank).length
  let afterBlanks := afterVersion.drop blanks
  let comment := if afterBlanks.head? == some '#' then commentLength afterBlanks else 0
  let ended := read.pass (blanks + comment)
  if ended.rest.head?.any (!isBreak ·) then throw (fault .missingLineBreak)
  pure (ended.pass 1)

def indicators : List Char :=
  ['#', '&', '*', '!', '|', '>', '\'', '"', '%', '@', '\x60']

def canStartPlain (inFlow : Bool) (c : Char) (rest : List Char) : Bool :=
  if c = '-' then !rest.head?.any isBlank
  else if c = '?' || c = ':' then !inFlow && !atGap rest
  else !isBlank c && !isFlowMark c && !indicators.contains c

def fetchContent (scanner : Scanner) (c : Char) (rest : List Char) : Except Fault Scanner :=
  match c with
  | '[' => scanner.openFlow .flowSequenceStart
  | '\x7b' => scanner.openFlow .flowMappingStart
  | ']' => scanner.closeFlow .flowSequenceEnd
  | '\x7d' => scanner.closeFlow .flowMappingEnd
  | ',' => scanner.flowEntry
  | '\'' => scanner.quoted false
  | '"' => scanner.quoted true
  | '!' => scanner.tag
  | _ =>
    if c = '-' && atGap rest then scanner.blockEntry
    else if c = '?' && (scanner.inFlow || atGap rest) then scanner.explicitKey
    else if c = ':' && (scanner.inFlow || atGap rest) then scanner.value
    else if c = '|' && !scanner.inFlow then scanner.block true
    else if c = '>' && !scanner.inFlow then scanner.block false
    else if c = '&' || c = '*' then scanner.fail .unsupported
    else if canStartPlain scanner.inFlow c rest then scanner.plain
    else scanner.fail .noToken

/-- The token that begins with `c`, and a comment after it. The dash of a block entry has none, and a
scalar after which a key may begin has gone on to another line. -/
def fetch (scanner : Scanner) (c : Char) (rest : List Char) : Except Fault Scanner :=
  if scanner.place.column = 0 && c = '%' then scanner.directive
  else if scanner.place.column = 0 && isMarker scanner.rest then
    scanner.documentMark (if c = '-' then .documentStart else .documentEnd)
  else do
    let found ← scanner.fetchContent c rest
    match found.queue.getLast?, found.keyAllowed with
    | some ⟨.blockEntry, _⟩, _ => pure found
    | some ⟨.scalar .., _⟩, true => pure found
    | _, _ => pure found.lineComment

def finish (scanner : Scanner) : Except Fault Scanner := do
  let place := scanner.place
  let line := if place.column = 0 then place.line else place.line + 1
  let ended :=
    { scanner with position := { scanner.position with place := ⟨line, 0, place.index⟩ } }
  let closed ← ended.closeAll.dropKey
  pure ({ closed with keyAllowed := false }.push .streamEnd)

def fetchNext (scanner : Scanner) : Except Fault Scanner :=
  let ready := (toToken (scanner.size + 1) (scanner.look 1)).dedent.look 4
  match ready.rest with
  | [] => ready.finish
  | c :: rest => ready.fetch c rest

/-- The next token may be a key for all one knows, so that a key token could still come before it. -/
def headAwaits (scanner : Scanner) : Except Fault Bool :=
  if scanner.awaited.contains scanner.taken then
    match (scanner.slot :: scanner.outer).find? (·.number = scanner.taken) with
    | some slot => scanner.isLive slot
    | none => .ok false
  else .ok false

def lookahead : Nat := 3

def fill : (room : Nat) → Scanner → Except Fault Scanner
  | 0, scanner => .ok scanner
  | room + 1, scanner => do
    if scanner.queue.length < lookahead || (← scanner.headAwaits) then
      (← scanner.fetchNext).fill room
    else pure scanner

def ready (scanner : Scanner) : Except Fault Scanner :=
  scanner.fill (scanner.size + lookahead + 1)

def advance (scanner : Scanner) : Scanner :=
  { scanner with queue := scanner.queue.drop 1, taken := scanner.taken + 1 }

def ofSource (source : Source) : Scanner :=
  { size := source.chars.length
    rest := paired source.chars
    position := { window := { portions := source.portions } } }

end Scanner

end Scriptlet.Yaml
