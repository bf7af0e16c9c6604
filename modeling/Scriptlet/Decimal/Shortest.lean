import Scriptlet.Decimal.Basic

/-! The shortest decimal that reads back as a given floating-point number. Grids of one, two, up to
seventeen figures are tried in turn; on each, the two points around the number are read back. Where two
points of a grid read back, the nearer is taken, and of two equally near the even one. -/
namespace Scriptlet.Decimal

def ratio (x : Float) : Nat × Nat :=
  let bits := x.toBits.toNat % Nat.pow 2 63
  let field := bits / Nat.pow 2 52
  let fraction := bits % Nat.pow 2 52
  -- A subnormal number has no leading bit of its own.
  let mantissa := if field = 0 then fraction else fraction + Nat.pow 2 52
  let exponent := if field = 0 then 1 else field
  if 1075 ≤ exponent then (mantissa * Nat.pow 2 (exponent - 1075), 1)
  else (mantissa, Nat.pow 2 (1075 - exponent))

/-- The fraction written out to its last figure; the denominator of a ratio is a power of two. -/
def exact (numerator denominator : Nat) : Decimal :=
  normal ⟨numerator * Nat.pow 5 denominator.log2, denominator.log2⟩

/-- The power of ten just above a fraction that is not zero. -/
def magnitude (numerator denominator : Nat) : Int :=
  if denominator ≤ numerator then (figures (numerator / denominator)).length
  else 1 - (figures (denominator / numerator)).length

def readsBack (x : Float) (decimal : Decimal) : Bool :=
  decimal.nearest.toBits == x.toBits

def units (numerator denominator : Nat) (exponent : Int) : Nat × Nat :=
  match exponent with
  | .ofNat zeros => (numerator, denominator * Nat.pow 10 zeros)
  | .negSucc less => (numerator * Nat.pow 10 (less + 1), denominator)

/-- The best point for `x` among those with `count` figures, if one reads back. -/
def onGrid (x : Float) (numerator denominator : Nat) (count : Nat) : Option Decimal :=
  let exponent := magnitude numerator denominator - count
  let (above, below) := units numerator denominator exponent
  let floor := above / below
  let lower := (scaled floor exponent).normal
  let upper := (scaled (floor + 1) exponent).normal
  let twice := 2 * (above % below)
  let preferLower := twice < below || (twice == below && floor % 2 == 0)
  match readsBack x lower, readsBack x upper with
  | true, true => some (if preferLower then lower else upper)
  | true, false => some lower
  | false, true => some upper
  | false, false => none

def shortest (x : Float) : Decimal :=
  match ratio x with
  | (0, _) => ⟨0, 0⟩
  | (numerator, denominator) =>
    ((List.range 17).findSome? fun count => onGrid x numerator denominator (count + 1)).getD
      (exact numerator denominator)

end Scriptlet.Decimal

namespace Scriptlet

def isNegative (x : Float) : Bool :=
  Nat.pow 2 63 ≤ x.toBits.toNat

def magnitudeDecimal (x : Float) : Decimal :=
  Decimal.shortest x.abs

def floatText (x : Float) : String :=
  if x.isNaN then "NaN"
  else if x.isInf then (if isNegative x then "-Inf" else "+Inf")
  else (if isNegative x then "-" else "") ++ (magnitudeDecimal x).text

end Scriptlet
