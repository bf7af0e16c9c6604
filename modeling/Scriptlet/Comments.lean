/-! Whether a source text has comments, decided by following quotes alone: inside a string nothing
starts a comment, and a string in double quotes ends at a line break even when nothing closes it. -/
namespace Scriptlet

/-- Whether a comment starts in a text that is inside the given quotes, if in any. -/
def commentStarts : Option Char → List Char → Bool
  | _, [] => false
  | some quote, c :: rest =>
    if c == quote || (quote == '"' && c == '\n') then commentStarts none rest
    else commentStarts (some quote) rest
  | none, c :: rest =>
    if c == '"' || c == '\x60' then commentStarts (some c) rest
    else c == '#' || (c == '/' && rest.head? == some '*') || commentStarts none rest

def hasComments (source : String) : Bool :=
  commentStarts none source.toList

end Scriptlet
