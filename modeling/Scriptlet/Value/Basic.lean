import Scriptlet.Decimal.Shortest
import Scriptlet.Text.ByteString

/-! The values of running programs. -/
namespace Scriptlet

inductive Kind
  | integer
  | float
  | string
  | boolean
  | nil
deriving DecidableEq, Repr

def Kind.name : Kind → String
  | integer => "Integer"
  | float => "Float"
  | string => "String"
  | boolean => "Boolean"
  | nil => "Nil"

/-- A value. `absent` is no value at all: a name can be bound to it from outside a program, and there it
counts as nil. -/
inductive Value
  | integer (value : Int64)
  | float (value : Float)
  | string (value : ByteString)
  | boolean (value : Bool)
  | nil
  | absent

namespace Value

def kind : Value → Kind
  | integer _ => .integer
  | float _ => .float
  | string _ => .string
  | boolean _ => .boolean
  | nil => .nil
  | absent => .nil

/-- Only nil and false are not true. -/
def isTrue : Value → Bool
  | boolean value => value
  | nil => false
  | absent => false
  | _ => true

def text : Value → ByteString
  | integer value => toString value.toInt
  | float value => floatText value
  | string value => value
  | boolean value => if value then "true" else "false"
  | nil => "nil"
  | absent => "nil"

end Value

end Scriptlet
