import Scriptlet.Decimal.Shortest

/-! A fixed number of places after the point. -/
namespace Scriptlet.Decimal

/-- A quotient rounded to the nearest whole number, a half to the even neighbour. -/
def roundedQuotient (numerator denominator : Nat) : Nat :=
  let floor := numerator / denominator
  let twice := 2 * (numerator % denominator)
  if denominator < twice || (twice == denominator && floor % 2 == 1) then floor + 1 else floor

def fixedText (places : Nat) (x : Float) : String :=
  let (numerator, denominator) := ratio x
  let rounded : Decimal := ⟨roundedQuotient (numerator * Nat.pow 10 places) denominator, places⟩
  (if isNegative x then "-" else "") ++ rounded.text

end Scriptlet.Decimal
