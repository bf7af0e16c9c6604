/-! Byte texts read as UTF-8. A byte that starts no well-formed sequence stands for itself, so that
reading never fails and loses nothing; shown as text, such a byte is the replacement character. -/
namespace Scriptlet.Text

inductive Piece
  | char (value : Char)
  | stray (byte : UInt8)
deriving DecidableEq, Repr

namespace Piece

def shown : Piece → Char
  | char value => value
  | stray _ => '\ufffd'

def bytes : Piece → List UInt8
  | char value => value.toString.toUTF8.toList
  | stray byte => [byte]

end Piece

def continuation? (byte : UInt8) : Option Nat :=
  if 0x80 ≤ byte && byte < 0xC0 then some (byte.toNat - 0x80) else none

def scalar? (least code : Nat) : Option Char :=
  if h : least ≤ code ∧ code.isValidChar then some (Char.ofNatAux code h.2) else none

/-- The character that starts with `lead`, and how many bytes of `rest` it takes. -/
def leading? (lead : UInt8) (rest : List UInt8) : Option (Char × Nat) :=
  if lead < 0x80 then
    some (Char.ofNat lead.toNat, 0)
  else if 0xC0 ≤ lead && lead < 0xE0 then
    match rest with
    | b :: _ => do
      let x ← continuation? b
      let c ← scalar? 0x80 ((lead.toNat - 0xC0) * 64 + x)
      pure (c, 1)
    | [] => none
  else if 0xE0 ≤ lead && lead < 0xF0 then
    match rest with
    | b₁ :: b₂ :: _ => do
      let x ← continuation? b₁
      let y ← continuation? b₂
      let c ← scalar? 0x800 (((lead.toNat - 0xE0) * 64 + x) * 64 + y)
      pure (c, 2)
    | _ => none
  else if 0xF0 ≤ lead && lead < 0xF8 then
    match rest with
    | b₁ :: b₂ :: b₃ :: _ => do
      let x ← continuation? b₁
      let y ← continuation? b₂
      let z ← continuation? b₃
      let c ← scalar? 0x10000 ((((lead.toNat - 0xF0) * 64 + x) * 64 + y) * 64 + z)
      pure (c, 3)
    | _ => none
  else
    none

/-- The pieces of a byte text, where the first `skip` bytes are already accounted for. -/
def piecesAfter : Nat → List UInt8 → List Piece
  | _, [] => []
  | skip + 1, _ :: rest => piecesAfter skip rest
  | 0, lead :: rest =>
    match leading? lead rest with
    | some (c, taken) => .char c :: piecesAfter taken rest
    | none => .stray lead :: piecesAfter 0 rest

def pieces (bytes : ByteArray) : List Piece :=
  piecesAfter 0 bytes.toList

def piecesOfText (text : String) : List Piece :=
  text.toList.map .char

def ofBytes (bytes : ByteArray) : String :=
  String.ofList ((pieces bytes).map Piece.shown)

def isWellFormed (bytes : ByteArray) : Bool :=
  (pieces bytes).all fun piece => match piece with
    | .char _ => true
    | .stray _ => false

end Scriptlet.Text
