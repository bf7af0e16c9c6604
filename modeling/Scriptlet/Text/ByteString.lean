import Scriptlet.Text.Blank
import Scriptlet.Text.Utf8

/-! Byte strings. Most are the characters of a text; the others hold bytes that no text is made of, and
these are kept apart until the string is shown. -/
namespace Scriptlet

/-- A string of bytes. Bytes that are well-formed UTF-8 are always held as the text they spell, so that
two byte strings are equal exactly if their bytes are. -/
inductive ByteString
  | text (value : String)
  | raw (value : ByteArray) (illFormed : ¬ value.IsValidUTF8)

namespace ByteString

instance : DecidableEq ByteString
  | text first, text second =>
    match decEq first second with
    | isTrue same => isTrue (by subst same; rfl)
    | isFalse other => isFalse fun same => other (text.inj same)
  | raw first _, raw second _ =>
    match ByteArray.instDecidableEq first second with
    | isTrue same => isTrue (by subst same; rfl)
    | isFalse other => isFalse fun same => other (raw.inj same)
  | text _, raw _ _ => isFalse nofun
  | raw _ _, text _ => isFalse nofun

instance : Coe String ByteString := ⟨text⟩

instance : Inhabited ByteString := ⟨text ""⟩

def ofBytes (bytes : ByteArray) : ByteString :=
  if h : bytes.IsValidUTF8 then text (String.ofByteArray bytes h) else raw bytes h

def bytes : ByteString → ByteArray
  | text value => value.toUTF8
  | raw value _ => value

theorem bytes_ofBytes (bytes : ByteArray) : (ofBytes bytes).bytes = bytes := by
  unfold ofBytes
  split
  · rfl
  · rfl

theorem ofBytes_bytes (string : ByteString) : ofBytes string.bytes = string := by
  cases string with
  | text value => simp [ofBytes, bytes, String.isValidUTF8]
  | raw value illFormed => simp [ofBytes, bytes, illFormed]

theorem bytes_inj {first second : ByteString} : first.bytes = second.bytes ↔ first = second :=
  ⟨fun same => by rw [← ofBytes_bytes first, ← ofBytes_bytes second, same], fun same => same ▸ rfl⟩

def pieces : ByteString → List Text.Piece
  | text value => Text.piecesOfText value
  | raw value _ => Text.pieces value

def ofPieces (pieces : List Text.Piece) : ByteString :=
  ofBytes ⟨(pieces.flatMap Text.Piece.bytes).toArray⟩

/-- A byte string as text, every stray byte replaced. -/
def shown : ByteString → String
  | text value => value
  | raw value _ => Text.ofBytes value

instance : ToString ByteString := ⟨shown⟩

instance : Repr ByteString := ⟨fun string _ => repr string.shown⟩

def isEmpty : ByteString → Bool
  | text value => value.isEmpty
  | raw .. => false

/-- Bytes after bytes. The two halves of a character make up the character. -/
def append : ByteString → ByteString → ByteString
  | text first, text second => text (first ++ second)
  | first, second => ofBytes (first.bytes ++ second.bytes)

instance : Append ByteString := ⟨append⟩

theorem bytes_append (first second : ByteString) :
    (first ++ second).bytes = first.bytes ++ second.bytes := by
  show (append first second).bytes = _
  unfold append
  split
  · exact String.toByteArray_append
  · exact bytes_ofBytes _

theorem append_assoc (first second third : ByteString) :
    first ++ second ++ third = first ++ (second ++ third) := by
  rw [← bytes_inj]
  simp only [bytes_append, ByteArray.append_assoc]

theorem empty_append (string : ByteString) : "" ++ string = string := by
  rw [← bytes_inj, bytes_append]
  exact ByteArray.empty_append

theorem append_empty (string : ByteString) : string ++ "" = string := by
  rw [← bytes_inj, bytes_append]
  exact ByteArray.append_empty

def join (strings : List ByteString) : ByteString :=
  strings.foldl (· ++ ·) ""

theorem foldl_append (start : ByteString) (strings : List ByteString) :
    strings.foldl (· ++ ·) start = start ++ join strings := by
  induction strings generalizing start with
  | nil => exact (append_empty start).symm
  | cons string rest ih =>
    have first : join (string :: rest) = string ++ join rest := by
      rw [join, List.foldl_cons, ih, empty_append]
    rw [List.foldl_cons, ih, first, append_assoc]

theorem join_append (first second : List ByteString) :
    join (first ++ second) = join first ++ join second := by
  rw [join, List.foldl_append, foldl_append]
  rfl

def unlines (strings : List ByteString) : ByteString :=
  join (strings.map (· ++ "\n"))

theorem unlines_append (first second : List ByteString) :
    unlines (first ++ second) = unlines first ++ unlines second := by
  rw [unlines, List.map_append, join_append]
  rfl

def intercalate (separator : ByteString) : List ByteString → ByteString
  | [] => ""
  | [last] => last
  | first :: rest => first ++ separator ++ intercalate separator rest

/-- The order of the bytes, which for two texts is that of their characters. -/
def precedes (first second : ByteString) : Bool :=
  first.bytes.data.toList.lex second.bytes.data.toList fun a b => a < b

theorem precedes_iff {first second : ByteString} :
    first.precedes second = true ↔ first.bytes.data.toList < second.bytes.data.toList :=
  List.lex_eq_true_iff_lt

theorem precedes_trans {first second third : ByteString} (before : first.precedes second = true)
    (further : second.precedes third = true) : first.precedes third = true :=
  precedes_iff.mpr (List.lt_trans (precedes_iff.mp before) (precedes_iff.mp further))

theorem precedes_of_not {first second : ByteString} (other : first ≠ second)
    (after : ¬ first.precedes second = true) : second.precedes first = true := by
  rw [precedes_iff, List.not_lt] at after
  by_cases before : second.bytes.data.toList < first.bytes.data.toList
  · exact precedes_iff.mpr before
  · have same := List.le_antisymm (List.not_lt.mp before) after
    exact absurd (bytes_inj.mp (ByteArray.ext (Array.toList_inj.mp same))) other

def isBlankPiece : Text.Piece → Bool
  | .char value => Text.isBlank value
  | .stray _ => false

def trim : ByteString → ByteString
  | text value => Text.trim value
  | string => ofPieces (Text.trimBy isBlankPiece string.pieces)

def words : ByteString → List ByteString
  | text value => (Text.words value).map text
  | string => (Text.wordsBy isBlankPiece [] string.pieces).map ofPieces

end ByteString

end Scriptlet
