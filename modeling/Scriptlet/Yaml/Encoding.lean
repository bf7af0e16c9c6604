import Scriptlet.Text.Utf8
import Scriptlet.Yaml.Fault

/-! The characters of a YAML text. A byte order mark in front of it tells its encoding; without one it is
UTF-8. -/
namespace Scriptlet.Yaml

def isAllowed (c : Char) : Bool :=
  c = '\t' || c = '\n' || c = '\r' || (' ' ≤ c && c ≤ '~') || c = '\u0085'
    || ('\u00a0' ≤ c && c ≠ '\ufffe' && c ≠ '\uffff')

abbrev CharReader := List UInt8 → Except Cause (Char × Nat)

def charOf (code : Nat) : Except Cause Char :=
  if h : code.isValidChar then .ok (Char.ofNatAux code h) else .error .invalidCharacter

def sequenceLimits (lead : UInt8) : Option (Nat × Nat × Nat) :=
  if lead < 0x80 then some (1, 0, 0)
  else if lead < 0xC0 then none
  else if lead < 0xE0 then some (2, 0xC0, 0x80)
  else if lead < 0xF0 then some (3, 0xE0, 0x800)
  else if lead < 0xF8 then some (4, 0xF0, 0x10000)
  else none

def utf8Char : CharReader
  | [] => .error .incompleteSequence
  | lead :: rest =>
    match sequenceLimits lead with
    | none => .error .invalidLead
    | some (count, base, least) =>
      let trail := rest.take (count - 1)
      if trail.length < count - 1 then .error .incompleteSequence
      else match trail.mapM Text.continuation? with
        | none => .error .invalidTrail
        | some values =>
          let code := values.foldl (fun code value => code * 64 + value) (lead.toNat - base)
          if code < least then .error .overlongSequence else (charOf code).map (·, count)

def unitOf (bigEndian : Bool) (first second : UInt8) : Nat :=
  if bigEndian then first.toNat * 256 + second.toNat else second.toNat * 256 + first.toNat

def isHighSurrogate (unit : Nat) : Bool := 0xD800 ≤ unit && unit < 0xDC00

def isLowSurrogate (unit : Nat) : Bool := 0xDC00 ≤ unit && unit < 0xE000

def utf16Char (bigEndian : Bool) : CharReader
  | a :: b :: rest =>
    let unit := unitOf bigEndian a b
    if isLowSurrogate unit then .error .loneLowSurrogate
    else if isHighSurrogate unit then
      match rest with
      | c :: d :: _ =>
        let low := unitOf bigEndian c d
        if isLowSurrogate low then
          (charOf (0x10000 + (unit - 0xD800) * 1024 + (low - 0xDC00))).map (·, 4)
        else .error .loneHighSurrogate
      | _ => .error .incompletePair
    else (charOf unit).map (·, 2)
  | _ => .error .incompleteUnit

def charsAfter (reader : CharReader) : Nat → List UInt8 → Except Cause (List (Char × Nat))
  | _, [] => .ok []
  | skip + 1, _ :: rest => charsAfter reader skip rest
  | 0, lead :: rest => do
    let (c, width) ← reader (lead :: rest)
    if !isAllowed c then throw .controlCharacter
    return (c, width) :: (← charsAfter reader (width - 1) rest)

/-- How many characters each portion of a text holds, if a portion is `limit` bytes and characters are
not cut. The first has `left` bytes still to go, and `count` characters so far. -/
def portionSizes (limit left count : Nat) : List Nat → List Nat
  | [] => if count = 0 then [] else [count]
  | width :: rest =>
    if width ≤ left then portionSizes limit (left - width) (count + 1) rest
    else count :: portionSizes limit (limit - width) 1 rest

structure Source where
  chars : List Char
  portions : List Nat

def portionLimit : Nat := 512

def Source.ofBytes (bytes : ByteArray) : Except Cause Source := do
  let (reader, mark, content) : CharReader × Nat × List UInt8 := match bytes.toList with
    | 0xFF :: 0xFE :: rest => (utf16Char false, 2, rest)
    | 0xFE :: 0xFF :: rest => (utf16Char true, 2, rest)
    | 0xEF :: 0xBB :: 0xBF :: rest => (utf8Char, 3, rest)
    | all => (utf8Char, 0, all)
  let chars ← charsAfter reader 0 content
  pure ⟨chars.map (·.1), portionSizes portionLimit (portionLimit - mark) 0 (chars.map (·.2))⟩

end Scriptlet.Yaml
