/-! Decimal numbers without a sign, `digits / 10 ^ places`, their positional text and the nearest
binary floating-point number. -/
namespace Scriptlet

structure Decimal where
  digits : Nat
  places : Nat
deriving DecidableEq, Repr

namespace Decimal

/-- The nearest floating-point number, ties to even; infinite when there is none in range. -/
def nearest (decimal : Decimal) : Float :=
  Float.ofScientific decimal.digits true decimal.places

def figures (value : Nat) : List Char :=
  Nat.toDigits 10 value

def scaled (digits : Nat) (exponent : Int) : Decimal :=
  match exponent with
  | .ofNat zeros => ⟨digits * Nat.pow 10 zeros, 0⟩
  | .negSucc less => ⟨digits, less + 1⟩

def trimmed (digits : Nat) : Nat → Decimal
  | 0 => ⟨digits, 0⟩
  | places + 1 => if digits % 10 = 0 then trimmed (digits / 10) places else ⟨digits, places + 1⟩

def normal (decimal : Decimal) : Decimal :=
  trimmed decimal.digits decimal.places

/-- The whole part and the fraction, the whole part with at least one figure. -/
def parts (decimal : Decimal) : List Char × List Char :=
  let shown := figures decimal.digits
  let padded := List.replicate (decimal.places + 1 - shown.length) '0' ++ shown
  padded.splitAt (padded.length - decimal.places)

def text (decimal : Decimal) : String :=
  match decimal.parts with
  | (whole, []) => String.ofList whole
  | (whole, fraction) => String.ofList (whole ++ '.' :: fraction)

/-- The figures from the first to the last that is not zero, and the power of ten of the first. -/
def significant (decimal : Decimal) : List Char × Int :=
  let shown := figures decimal.digits
  ((shown.reverse.dropWhile (· == '0')).reverse, (shown.length : Int) - 1 - decimal.places)

/-- Scientific notation: one figure before the point, a sign but no padding in the exponent. -/
def scientific (decimal : Decimal) : String :=
  match decimal.significant with
  | ([], _) => "0"
  | (head :: tail, exponent) =>
    let mantissa := if tail.isEmpty then [head] else head :: '.' :: tail
    let mark := if exponent < 0 then "e-" else "e+"
    String.ofList mantissa ++ mark ++ toString exponent.natAbs

end Decimal

end Scriptlet
