/-! Cutting a text at its line breaks. -/
namespace Scriptlet.Text

def prepend {α : Type} (item : α) : List (List α) → List (List α)
  | [] => [[item]]
  | first :: others => (item :: first) :: others

/-- The stretches between separators; there is one more of them than there are separators. -/
def splitAt {α : Type} [DecidableEq α] (separator : α) (items : List α) : List (List α) :=
  items.foldr (fun item parts => if item = separator then [] :: parts else prepend item parts) [[]]

def lines (text : String) : List String :=
  (splitAt '\n' text.toList).map String.ofList

end Scriptlet.Text
