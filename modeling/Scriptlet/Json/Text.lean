import Scriptlet.Text.Quoted

/-! Strings in JSON. Besides what the format demands, the signs that mean something in a web page and
the two line separators are escaped. -/
namespace Scriptlet.Json

def escape (c : Char) : String :=
  match c with
  | '"' => "\\\""
  | '\\' => "\\\\"
  | '\x08' => "\\b"
  | '\x0c' => "\\f"
  | '\n' => "\\n"
  | '\r' => "\\r"
  | '\t' => "\\t"
  | '<' | '>' | '&' | '\u2028' | '\u2029' => "\\u" ++ Text.hex 4 c.toNat
  | _ => if c.val < 0x20 then "\\u" ++ Text.hex 4 c.toNat else c.toString

def quote (text : String) : String :=
  "\"" ++ String.join (text.toList.map escape) ++ "\""

end Scriptlet.Json
