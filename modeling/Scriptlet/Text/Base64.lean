/-! Bytes written in base 64: three bytes are four digits, and a last group that is not full is padded. -/
namespace Scriptlet.Text.Base64

def digits : List Char :=
  "ABCDEFGHIJKLMNOPQRSTUVWXYZabcdefghijklmnopqrstuvwxyz0123456789+/".toList

def digit (value : Nat) : Char :=
  digits.getD (value % 64) 'A'

def value? (c : Char) : Option Nat :=
  digits.findIdx? (· = c)

def group (a b c : UInt8) : Char × Char × Char × Char :=
  let value := (a.toNat * 256 + b.toNat) * 256 + c.toNat
  (digit (value / 262144), digit (value / 4096), digit (value / 64), digit value)

def encode : List UInt8 → List Char
  | [] => []
  | [a] =>
    let (p, q, _, _) := group a 0 0
    [p, q, '=', '=']
  | [a, b] =>
    let (p, q, r, _) := group a b 0
    [p, q, r, '=']
  | a :: b :: c :: rest =>
    let (p, q, r, s) := group a b c
    p :: q :: r :: s :: encode rest

def bytesOf (count : Nat) (a b c d : Char) : Option (List UInt8) := do
  let value := (((← value? a) * 64 + (← value? b)) * 64 + (← value? c)) * 64 + (← value? d)
  pure (([value / 65536, value / 256, value].map UInt8.ofNat).take count)

/-- The bytes that digits stand for. What a padded group has beyond its bytes does not count. -/
def decode? : List Char → Option (List UInt8)
  | [] => some []
  | [a, b, '=', '='] => bytesOf 1 a b 'A' 'A'
  | [a, b, c, '='] => bytesOf 2 a b c 'A'
  | a :: b :: c :: d :: rest => do
    let bytes ← bytesOf 3 a b c d
    pure (bytes ++ (← decode? rest))
  | _ => none

end Scriptlet.Text.Base64
