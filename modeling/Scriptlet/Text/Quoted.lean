import Scriptlet.Text.ByteString
import Scriptlet.Text.Printable

/-! Quoted texts: double quotes around the text, with a backslash escape for each quote, backslash,
unprintable character and stray byte inside it. -/
namespace Scriptlet.Text

def hexDigit (value : Nat) : Char :=
  (Nat.digitChar (value % 16))

def hex (width value : Nat) : String :=
  String.ofList ((List.range width).reverse.map fun place => hexDigit (value / Nat.pow 16 place))

def escapeChar (c : Char) : String :=
  match c with
  | '"' => "\\\""
  | '\\' => "\\\\"
  | '\x07' => "\\a"
  | '\x08' => "\\b"
  | '\x0c' => "\\f"
  | '\n' => "\\n"
  | '\r' => "\\r"
  | '\t' => "\\t"
  | '\x0b' => "\\v"
  | _ =>
    if isPrintable c then c.toString
    else if c.val < 0x80 then "\\x" ++ hex 2 c.toNat
    else if c.val < 0x10000 then "\\u" ++ hex 4 c.toNat
    else "\\U" ++ hex 8 c.toNat

def escapePiece : Piece → String
  | .char value => escapeChar value
  | .stray byte => "\\x" ++ hex 2 byte.toNat

def quotePieces (text : List Piece) : String :=
  "\"" ++ String.join (text.map escapePiece) ++ "\""

def quote (text : String) : String :=
  quotePieces (piecesOfText text)

end Scriptlet.Text

def Scriptlet.ByteString.quote (string : ByteString) : String :=
  Text.quotePieces string.pieces
