import Scriptlet.Decimal.Reading
import Scriptlet.Time.Instant

/-! The types of scalars, and the one that the text of a plain scalar stands for. -/
namespace Scriptlet.Yaml

inductive Tag
  | null
  | boolean
  | integer
  | float
  | timestamp
  | string
  | binary
  | merge
deriving DecidableEq, Repr

namespace Tag

def name : Tag → String
  | null => "!!null"
  | boolean => "!!bool"
  | integer => "!!int"
  | float => "!!float"
  | timestamp => "!!timestamp"
  | string => "!!str"
  | binary => "!!binary"
  | merge => "!!merge"

def trueTexts : List String := ["true", "True", "TRUE"]

def falseTexts : List String := ["false", "False", "FALSE"]

def nullTexts : List String := ["", "~", "null", "Null", "NULL"]

def floatTexts : List String :=
  [".nan", ".NaN", ".NAN", ".inf", ".Inf", ".INF", "+.inf", "+.Inf", "+.INF", "-.inf", "-.Inf", "-.INF"]

def based : List Char → Nat × List Char
  | '0' :: 'x' :: rest => (16, rest)
  | '0' :: 'X' :: rest => (16, rest)
  | '0' :: 'o' :: rest => (8, rest)
  | '0' :: 'O' :: rest => (8, rest)
  | '0' :: 'b' :: rest => (2, rest)
  | '0' :: 'B' :: rest => (2, rest)
  | '0' :: c :: rest => (8, c :: rest)
  | text => (10, text)

def isBelow (limit base : Nat) (shown : List Char) : Bool :=
  let isDigit (c : Char) : Bool := Decimal.isHexFigure c && Decimal.figureValue c < base
  !shown.isEmpty && shown.all isDigit && Decimal.valueOf base shown < limit

/-- A whole number in a base. With a sign it fits in 64 bits as a signed number, without one also as an
unsigned one. -/
def fitsWord (negative signed : Bool) (base : Nat) (shown : List Char) : Bool :=
  isBelow (if negative then Nat.pow 2 63 + 1 else if signed then Nat.pow 2 63 else Nat.pow 2 64) base
    shown

def parts (text : List Char) : Bool × Bool × List Char :=
  let (negative, unsigned) := Decimal.signed text
  (negative, unsigned.length < text.length, unsigned)

/-- A whole number in any base. In the bases 2 and 8 the sign may also stand after the base. -/
def isInteger (text : List Char) : Bool :=
  let (negative, signed, unsigned) := parts text
  let (base, shown) := based unsigned
  let afterBase (base : Nat) (rest : List Char) : Bool :=
    let (negative, signed, shown) := parts rest
    fitsWord negative signed base shown
  fitsWord negative signed base shown || match text with
    | '0' :: 'b' :: rest => afterBase 2 rest
    | '0' :: 'o' :: rest => afterBase 8 rest
    | _ => false

def isExponent : List Char → Bool
  | [] => true
  | mark :: rest =>
    let shown := (Decimal.signed rest).2
    (mark = 'e' || mark = 'E') && !shown.isEmpty && shown.all Decimal.isFigure

def isDecimal (text : List Char) : Bool :=
  let unsigned := (Decimal.signed text).2
  let whole := unsigned.takeWhile Decimal.isFigure
  match unsigned.dropWhile Decimal.isFigure with
  | '.' :: rest =>
    (!whole.isEmpty || rest.head?.any Decimal.isFigure)
      && isExponent (rest.dropWhile Decimal.isFigure)
  | rest => !whole.isEmpty && isExponent rest

def time? (text : List Char) : Option (List Char) := do
  let (hour, rest) ← Instant.short? text
  let rest ← Instant.sign? ':' rest
  let (minute, rest) ← Instant.short? rest
  let rest ← Instant.sign? ':' rest
  let (second, rest) ← Instant.short? rest
  if 23 < hour || 59 < minute || 59 < second then none else pure (Instant.fraction rest).2

/-- A date, or a date and a time: after a `T` with an offset, after a blank without. -/
def timestamp? (text : List Char) : Option Unit := do
  let (year, rest) ← Instant.fixed? 4 0 text
  let rest ← Instant.sign? '-' rest
  let (month, rest) ← Instant.short? rest
  let rest ← Instant.sign? '-' rest
  let (day, rest) ← Instant.short? rest
  if month < 1 || 12 < month || day < 1 || Instant.daysInMonth year month < day then none
  else match rest with
    | [] => pure ()
    | 'T' :: rest | 't' :: rest => do
      let _ ← Instant.offset? (← time? rest)
    | ' ' :: rest => do
      let after ← time? (rest.dropWhile (· = ' '))
      if after.isEmpty then pure () else none
    | _ => none

def ofNumeric (text : List Char) : Tag :=
  let shown := text.filter (· ≠ '_')
  if (timestamp? text).isSome then .timestamp
  else if isInteger shown then .integer
  else if isDecimal shown && (Decimal.readFloat? (String.ofList shown)).isSome then .float
  else .string

def ofPlain (plain : String) : Tag :=
  if nullTexts.contains plain then .null
  else if trueTexts.contains plain || falseTexts.contains plain then .boolean
  else if floatTexts.contains plain then .float
  else match plain.toList with
    | '.' :: _ => if (Decimal.readFloat? plain).isSome then .float else .string
    | c :: rest =>
      if c = '+' || c = '-' || Decimal.isFigure c then ofNumeric (c :: rest) else .string
    | [] => .null

end Tag

end Scriptlet.Yaml
