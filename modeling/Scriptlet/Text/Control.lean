import Scriptlet.Text.Printable

/-! Characters that are not shown: whatever is neither printable nor a separator, such as controls, format
characters, and those that are private or not assigned. -/
namespace Scriptlet.Text

def separatorSpans : List Span :=
  [(0x20, 0x20), (0xa0, 0xa0), (0x1680, 0x1680), (0x2000, 0x200a), (0x2028, 0x2029),
   (0x202f, 0x202f), (0x205f, 0x205f), (0x3000, 0x3000)]

def isControl (c : Char) : Bool :=
  !isPrintable c && !within separatorSpans c

end Scriptlet.Text
