import Scriptlet.Decimal.Shortest
import Scriptlet.Syntax.Basic

/-! How literals are spelled, in laid-out source and in tree dumps alike. -/
namespace Scriptlet.Spelling

def integer (value : Int64) : String :=
  toString value.toInt

/-- A float is spelled with a point, so that it is not taken for an integer. -/
def float (value : Float) : String :=
  let text := floatText value
  if text.toList.contains '.' then text else text ++ ".0"

def boolean (value : Bool) : String :=
  if value then "true" else "false"

/-- A number too large for a float is kept as a string of its figures. -/
def isNumber (token : Token) : Bool :=
  token.kind == .integer || token.kind == .float

end Scriptlet.Spelling
