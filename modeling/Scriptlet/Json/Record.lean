import Scriptlet.Decimal.Reading
import Scriptlet.Json.Reader

/-! Reading records from JSON objects. A field's name is matched without regard to case, an unknown field
is passed over, null leaves a field as it was, and a value of the wrong type makes the record
unreadable. -/
namespace Scriptlet.Json

/-- A name with case removed. Two letters beyond ASCII have an ASCII letter for their other case. -/
def fold (name : String) : String :=
  String.ofList (name.toList.map fun c =>
    match c with
    | '\u017f' => 's'
    | '\u212a' => 'k'
    | _ => c.toLower)

def asText? (old : String) : Json → Option String
  | null => some old
  | string literal => some (decodeText literal)
  | _ => none

def asInteger? (old : Int) : Json → Option Int
  | null => some old
  | number literal => (Decimal.readInteger? literal).map (·.toInt)
  | _ => none

def asTexts? : Json → Option (Option (List String))
  | null => some none
  | array items => (items.mapM (asText? "")).map some
  | _ => none

def asRecord? {α : Type} (old : α) (field : α → String → Json → Option α) : Json → Option α
  | null => some old
  | object members =>
    members.foldlM (fun record member => field record (fold (decodeText member.1)) member.2) old
  | _ => none

mutual

def numbersFit : Json → Bool
  | number literal => (Decimal.readFloat? literal).isSome
  | array items => allNumbersFit items
  | object members => memberNumbersFit members
  | _ => true

def allNumbersFit : List Json → Bool
  | [] => true
  | item :: rest => item.numbersFit && allNumbersFit rest

def memberNumbersFit : List (String × Json) → Bool
  | [] => true
  | (_, value) :: rest => value.numbersFit && memberNumbersFit rest

end

end Scriptlet.Json
