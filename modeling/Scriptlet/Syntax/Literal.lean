import Scriptlet.Decimal.Reading
import Scriptlet.Syntax.Basic

/-! Literals by their text. -/
namespace Scriptlet.Expr

/-- The literal a text spells: an integer if it is one that fits, else a float if it is one in range,
else a truth value or nil by its word, else the text itself. -/
def ofText (token : Token) (text : String) : Expr :=
  match Decimal.readInteger? text with
  | some value => integer token value
  | none =>
    match Decimal.readFloat? text with
    | some value => float token value
    | none =>
      if text = "true" then boolean token true
      else if text = "false" then boolean token false
      else if text = "nil" then nil token
      else string token text

def ofLiteral (token : Token) : ByteString → Expr
  | .text value => ofText token value
  | other => string token other

end Scriptlet.Expr
