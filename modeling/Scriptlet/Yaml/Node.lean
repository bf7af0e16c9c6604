import Scriptlet.Yaml.Scanner

/-! The nodes of a YAML document, read from its tokens. -/
namespace Scriptlet.Yaml

inductive Form
  | plain
  | quoted
  | binary
deriving DecidableEq, Repr

/-- A scalar, a sequence or a mapping, with the line where it begins. A missing key, value or entry is an
empty plain scalar. -/
inductive Node
  | scalar (line : Nat) (form : Form) (text : String)
  | sequence (line : Nat) (items : List Node)
  | mapping (line : Nat) (entries : List (Node × Node))

namespace Node

def line : Node → Nat
  | scalar line .. => line
  | sequence line _ => line
  | mapping line _ => line

end Node

abbrev NodeReader := StateT Scanner (Except Fault)

namespace NodeReader

def peek : NodeReader PlacedToken := do
  let scanner ← (← get).ready
  set scanner
  pure (scanner.queue.headD ⟨.streamEnd, scanner.place⟩)

def drop : NodeReader Unit :=
  modify (·.advance)

def nothing (place : Place) : Node :=
  .scalar (place.line + 1) .plain ""

/-- Reads a node, unless the next token is one of those that can follow it. Then there is nothing at
the given place, or else at the token's. -/
def orNothing (place : Option Place) (followers : List Token) (node : NodeReader Node) :
    NodeReader Node := do
  let next ← peek
  if followers.contains next.token then pure (nothing (place.getD next.place)) else node

def binary (place : Place) : NodeReader Node := do
  match (← peek).token with
  | .scalar _ text => drop; pure (.scalar (place.line + 1) .binary text)
  | _ => throw (.inText .unsupported place place)

mutual

/-- A node. Block collections stand only in block context, and a sequence that is not indented only as
the key or the value of a block mapping. Every call uses up one of `room`, of which there is more
than enough. -/
def node (room : Nat) (inBlock unindented : Bool) : NodeReader Node := do
  let next ← peek
  let line := next.place.line + 1
  match room with
  | 0 => throw (.inOrder .missingContent next.place next.place)
  | room + 1 =>
    match next.token, inBlock, unindented with
    | .scalar quoted text, _, _ =>
      drop
      pure (.scalar line (if quoted then .quoted else .plain) text)
    | .binaryMark, _, _ => drop; binary next.place
    | .flowSequenceStart, _, _ => drop; return .sequence line (← flowItems room next.place true)
    | .flowMappingStart, _, _ => drop; return .mapping line (← flowEntries room next.place true)
    | .blockEntry, _, true => return .sequence line (← unindentedItems room)
    | .sequenceStart, true, _ => drop; return .sequence line (← blockItems room next.place)
    | .mappingStart, true, _ => drop; return .mapping line (← blockEntries room next.place)
    | _, _, _ => throw (.inOrder .missingContent next.place next.place)

def unindentedItems (room : Nat) : NodeReader (List Node) := do
  let next ← peek
  match room, next.token with
  | room + 1, .blockEntry =>
    drop
    let item ← orNothing next.place [.blockEntry, .key, .value, .blockEnd] (node room true false)
    return item :: (← unindentedItems room)
  | _, _ => pure []

def blockItems (room : Nat) (start : Place) : NodeReader (List Node) := do
  let next ← peek
  match room, next.token with
  | room + 1, .blockEntry =>
    drop
    let item ← orNothing next.place [.blockEntry, .blockEnd] (node room true false)
    return item :: (← blockItems room start)
  | _, .blockEnd => drop; pure []
  | _, _ => throw (.inOrder .missingDash start next.place)

def blockEntries (room : Nat) (start : Place) : NodeReader (List (Node × Node)) := do
  let next ← peek
  match room, next.token with
  | room + 1, .key =>
    drop
    let key ← orNothing next.place [.key, .value, .blockEnd] (node room true true)
    let value ← blockValue room
    return (key, value) :: (← blockEntries room start)
  | _, .blockEnd => drop; pure []
  | _, _ => throw (.inOrder .missingKey start next.place)

def blockValue (room : Nat) : NodeReader Node := do
  let next ← peek
  match room, next.token with
  | room + 1, .value => drop; orNothing next.place [.key, .value, .blockEnd] (node room true true)
  | _, _ => pure (nothing next.place)

def flowItems (room : Nat) (start : Place) (isFirst : Bool) : NodeReader (List Node) := do
  let next ← peek
  match room, next.token, isFirst with
  | _, .flowSequenceEnd, _ => drop; pure []
  | room + 1, .flowEntry, false =>
    drop
    if (← peek).token = .flowSequenceEnd then drop; pure []
    else flowItem room start
  | room + 1, _, true => flowItem room start
  | _, _, _ => throw (.inOrder .missingSequenceEnd start next.place)

/-- An item and the items after it. One with a colon is a mapping of its own; its key cannot be
empty. -/
def flowItem (room : Nat) (start : Place) : NodeReader (List Node) := do
  let next ← peek
  match room, next.token with
  | room + 1, .key =>
    drop
    let after ← peek
    if [.value, .flowEntry, .flowSequenceEnd].contains after.token then
      drop
      throw (.inOrder .missingSequenceEnd start (← peek).place)
    let key ← node room false false
    let value ← flowValue room .flowSequenceEnd
    let item := Node.mapping (next.place.line + 1) [(key, value)]
    return item :: (← flowItems room start false)
  | room + 1, _ =>
    let item ← node room false false
    return item :: (← flowItems room start false)
  | _, _ => throw (.inOrder .missingSequenceEnd start next.place)

def flowValue (room : Nat) (closing : Token) : NodeReader Node := do
  let next ← peek
  match room, next.token with
  | room + 1, .value => drop; orNothing none [.flowEntry, closing] (node room false false)
  | _, _ => pure (nothing next.place)

def flowEntries (room : Nat) (start : Place) (isFirst : Bool) : NodeReader (List (Node × Node)) := do
  let next ← peek
  match room, next.token, isFirst with
  | _, .flowMappingEnd, _ => drop; pure []
  | room + 1, .flowEntry, false =>
    drop
    if (← peek).token = .flowMappingEnd then drop; pure []
    else flowPair room start
  | room + 1, _, true => flowPair room start
  | _, _, _ => throw (.inOrder .missingMappingEnd start next.place)

def flowPair (room : Nat) (start : Place) : NodeReader (List (Node × Node)) := do
  let next ← peek
  match room, next.token with
  | room + 1, .key =>
    drop
    let key ← orNothing none [.value, .flowEntry, .flowMappingEnd] (node room false false)
    let value ← flowValue room .flowMappingEnd
    return (key, value) :: (← flowEntries room start false)
  | room + 1, _ =>
    let key ← node room false false
    let value := nothing (← peek).place
    return (key, value) :: (← flowEntries room start false)
  | _, _ => throw (.inOrder .missingMappingEnd start next.place)

end

def directives : (room : Nat) → (named : Bool) → NodeReader Unit
  | 0, _ => pure ()
  | room + 1, named => do
    let next ← peek
    match next.token with
    | .version major minor =>
      if named then throw (.inOrder .repeatedVersion next.place next.place)
      if major ≠ 1 || minor ≠ 1 then throw (.inOrder .otherVersion next.place next.place)
      drop
      directives room true
    | _ => pure ()

def document (room : Nat) : NodeReader (Option Node) := do
  let first ← peek
  match first.token with
  | .streamEnd => pure none
  | .version .. | .documentStart =>
    directives room false
    let next ← peek
    if next.token ≠ .documentStart then
      throw (.inOrder .missingDocumentStart next.place next.place)
    drop
    let after ← peek
    match after.token with
    | .version .. | .documentStart | .documentEnd | .streamEnd => pure (some (nothing after.place))
    | _ => content room
  | _ => content room
where
  content (room : Nat) : NodeReader (Option Node) := do
    let root ← node room true false
    let _ ← peek
    pure (some root)

end NodeReader

/-- The root of a text's first document, or none if the text has no document. A text has at most four
tokens to a character, and no more than four readers are at work on a token. -/
def read (bytes : ByteArray) : Except Fault (Option Node) := do
  let source ← (Source.ofBytes bytes).mapError fun cause => ⟨cause, 0⟩
  let room := 16 * (source.chars.length + 4)
  (·.1) <$> (NodeReader.document room).run (.ofSource source)

end Scriptlet.Yaml
