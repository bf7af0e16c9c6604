/-! Classes of characters given as spans of code points. -/
namespace Scriptlet.Text

/-- A run of code points, both ends included. -/
abbrev Span := Nat × Nat

def within (spans : List Span) (c : Char) : Bool :=
  spans.any fun (first, last) => first ≤ c.toNat && c.toNat ≤ last

end Scriptlet.Text
