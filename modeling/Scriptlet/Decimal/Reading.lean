import Scriptlet.Decimal.Basic

/-! Reading numbers from texts: 64-bit integers in decimal, and floating-point numbers in decimal or
hexadecimal, with optional exponents, names for the infinities, and underscores between digits. -/
namespace Scriptlet.Decimal

def isFigure (c : Char) : Bool :=
  '0' ≤ c && c ≤ '9'

def isHexFigure (c : Char) : Bool :=
  isFigure c || ('a' ≤ c && c ≤ 'f') || ('A' ≤ c && c ≤ 'F')

def figureValue (c : Char) : Nat :=
  if isFigure c then c.toNat - '0'.toNat
  else if 'a' ≤ c then c.toNat - 'a'.toNat + 10
  else c.toNat - 'A'.toNat + 10

def valueOf (base : Nat) (shown : List Char) : Nat :=
  shown.foldl (fun value c => value * base + figureValue c) 0

/-- The sign in front of a number: true for a minus. -/
def signed : List Char → Bool × List Char
  | '-' :: rest => (true, rest)
  | '+' :: rest => (false, rest)
  | text => (false, text)

def readInteger? (text : String) : Option Int64 :=
  let (negative, shown) := signed text.toList
  if shown.isEmpty || !shown.all isFigure then none
  else
    let value := valueOf 10 shown
    if negative then
      if value ≤ Nat.pow 2 63 then some (Int64.ofInt (-value)) else none
    else
      if value < Nat.pow 2 63 then some (Int64.ofInt value) else none

/-- Every underscore stands between two digits; `afterDigit` says whether the text follows one. -/
def underscoresFit (digit : Char → Bool) (afterDigit : Bool) : List Char → Bool
  | [] => true
  | '_' :: rest =>
    match rest with
    | next :: _ => afterDigit && digit next && underscoresFit digit false rest
    | [] => false
  | c :: rest => underscoresFit digit (digit c) rest

structure Written where
  whole : List Char
  fraction : List Char
  exponent : Option Int

/-- An exponent stops growing once it is far beyond every number's range. -/
def exponentValue (shown : List Char) : Nat :=
  shown.foldl (fun value c => if value < 10000 then value * 10 + figureValue c else value) 0

def readExponent? (text : List Char) : Option Int :=
  let (negative, shown) := signed text
  match shown with
  | [] => none
  | first :: _ =>
    if isFigure first && shown.all (fun c => isFigure c || c == '_') then
      let value : Int := exponentValue (shown.filter isFigure)
      some (if negative then -value else value)
    else none

def written? (digit : Char → Bool) (marks : List Char) (text : List Char) : Option Written :=
  let plain := fun c => digit c || c == '_'
  let whole := (text.takeWhile plain).filter digit
  let afterWhole := text.dropWhile plain
  let (fraction, afterFraction) := match afterWhole with
    | '.' :: rest => ((rest.takeWhile plain).filter digit, rest.dropWhile plain)
    | rest => ([], rest)
  if whole.isEmpty && fraction.isEmpty then none
  else match afterFraction with
    | [] => some ⟨whole, fraction, none⟩
    | mark :: rest =>
      if marks.contains mark then
        (readExponent? rest).map fun exponent => ⟨whole, fraction, some exponent⟩
      else none

def finite? (x : Float) : Option Float :=
  if x.isInf then none else some x

/-- `mantissa / 10 ^ places * 10 ^ exponent`, with numbers far out of range decided by size alone. -/
def decimalFloat? (mantissa places : Nat) (exponent : Int) : Option Float :=
  let size : Int := (figures mantissa).length - places + exponent
  if mantissa = 0 then some 0
  else if 400 < size then none
  else if size < -400 then some 0
  else
    let exact : Decimal := match exponent with
      | .ofNat zeros => ⟨mantissa * Nat.pow 10 zeros, places⟩
      | .negSucc less => ⟨mantissa, places + less + 1⟩
    finite? exact.normal.nearest

/-- `mantissa * 2 ^ exponent`. A power of two is written out in decimal, which is exact. -/
def binaryFloat? (mantissa : Nat) (exponent : Int) : Option Float :=
  let size : Int := mantissa.log2 + exponent
  if mantissa = 0 then some 0
  else if 1100 < size then none
  else if size < -1200 then some 0
  else match exponent with
    | .ofNat zeros => finite? (nearest ⟨mantissa * Nat.pow 2 zeros, 0⟩)
    | .negSucc less => finite? (nearest ⟨mantissa * Nat.pow 5 (less + 1), less + 1⟩)

def readDecimal? (text : List Char) : Option Float := do
  let parts ← written? isFigure ['e', 'E'] text
  if underscoresFit isFigure false text then
    decimalFloat? (valueOf 10 (parts.whole ++ parts.fraction)) parts.fraction.length
      (parts.exponent.getD 0)
  else none

def readHexadecimal? (text : List Char) : Option Float := do
  let parts ← written? isHexFigure ['p', 'P'] text
  let exponent ← parts.exponent
  if underscoresFit isHexFigure true text then
    binaryFloat? (valueOf 16 (parts.whole ++ parts.fraction)) (exponent - 4 * parts.fraction.length)
  else none

def isInfinity (text : List Char) : Bool :=
  let name := String.ofList (text.map Char.toLower)
  name == "inf" || name == "infinity"

def readUnsigned? (text : List Char) : Option Float :=
  if isInfinity text then some (1 / 0)
  else match text with
    | '0' :: mark :: rest =>
      if (mark == 'x' || mark == 'X') && !rest.isEmpty then readHexadecimal? rest
      else readDecimal? text
    | _ => readDecimal? text

/-- A floating-point number; a number too large for one is refused, one too small is zero. -/
def readFloat? (text : String) : Option Float :=
  if String.ofList (text.toList.map Char.toLower) == "nan" then some (0 / 0)
  else match signed text.toList with
    | (true, rest) => (readUnsigned? rest).map Float.neg
    | (false, rest) => readUnsigned? rest

end Scriptlet.Decimal
