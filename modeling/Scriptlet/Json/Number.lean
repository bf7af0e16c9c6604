import Scriptlet.Decimal.Shortest

/-! Floating-point numbers in JSON: the shortest figures, positional unless the number is below one
millionth or has more than 21 figures before the point. -/
namespace Scriptlet.Json

def isPositional (exponent : Int) : Bool :=
  -6 ≤ exponent && exponent < 21

def floatText (x : Float) : String :=
  let decimal := magnitudeDecimal x
  let sign := if isNegative x then "-" else ""
  if decimal.digits = 0 || isPositional decimal.significant.2 then sign ++ decimal.text
  else sign ++ decimal.scientific

end Scriptlet.Json
