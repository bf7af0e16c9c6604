import Scriptlet.Text.Span

/-! White space in Unicode's sense, and cutting texts at it. -/
namespace Scriptlet.Text

def blankSpans : List Span :=
  [(0x9, 0xd), (0x20, 0x20), (0x85, 0x85), (0xa0, 0xa0), (0x1680, 0x1680), (0x2000, 0x200a),
   (0x2028, 0x2029), (0x202f, 0x202f), (0x205f, 0x205f), (0x3000, 0x3000)]

def isBlank (c : Char) : Bool :=
  within blankSpans c

def trimBy {α : Type} (blank : α → Bool) (items : List α) : List α :=
  ((items.dropWhile blank).reverse.dropWhile blank).reverse

def trimChars (text : List Char) : List Char :=
  trimBy isBlank text

def trim (text : String) : String :=
  String.ofList (trimChars text.toList)

/-- The longest stretches without a blank: `current` is the one being read, last item first. -/
def wordsBy {α : Type} (blank : α → Bool) (current : List α) : List α → List (List α)
  | [] => if current.isEmpty then [] else [current.reverse]
  | c :: rest =>
    if blank c then
      if current.isEmpty then wordsBy blank [] rest else current.reverse :: wordsBy blank [] rest
    else wordsBy blank (c :: current) rest

def words (text : String) : List String :=
  (wordsBy isBlank [] text.toList).map String.ofList

end Scriptlet.Text
