import Scriptlet.Decimal.Reading
import Scriptlet.Json.Basic
import Scriptlet.Json.Number
import Scriptlet.Value.Basic

/-! Values as JSON. A float that is no number, or infinite, is written as a string. -/
namespace Scriptlet.Value

def toJson : Value → String
  | integer value => toString value.toInt
  | float value =>
    if value.isNaN || value.isInf then Json.quote (floatText value) else Json.floatText value
  | string value => Json.quote value.shown
  | boolean value => if value then "true" else "false"
  | nil => "null"
  | absent => "null"

/-- A floating-point number, as an integer if it is whole and every integer near it has a
floating-point number of its own. -/
def ofFloat (x : Float) : Value :=
  let (numerator, denominator) := Decimal.ratio x
  if x.isNaN || x.isInf then .float x
  else if numerator % denominator = 0 ∧ numerator / denominator < Nat.pow 2 53 then
    let size : Int := (numerator / denominator : Nat)
    .integer (Int64.ofInt (if isNegative x then -size else size))
  else .float x

/-- The value of a JSON scalar, its number read as a floating-point number. Arrays and objects have no
value of their own and are nil. -/
def ofJson : Json → Value
  | .bool value => .boolean value
  | .string literal => .string (Json.decodeText literal)
  | .number literal =>
    match Decimal.readFloat? literal with
    | some x => ofFloat x
    | none => .nil
  | _ => .nil

def ofExactJson : Json → Value
  | .number literal =>
    match Decimal.readInteger? literal with
    | some value => .integer value
    | none =>
      match Decimal.readFloat? literal with
      | some x => .float x
      | none => .nil
  | json => ofJson json

end Scriptlet.Value
