import Scriptlet.Text.ByteString

/-! Cutting bytes into lines as a reader with a buffer of limited size does: a line feed ends a line, a
carriage return before it does not count, and a line that does not fit in the buffer comes in parts. -/
namespace Scriptlet.Text

structure Chunk where
  bytes : List UInt8
  isWhole : Bool
deriving DecidableEq, Repr

def lineFeed : UInt8 := 10

def carriageReturn : UInt8 := 13

def withoutReturn (line : List UInt8) : List UInt8 :=
  if line.getLast? == some carriageReturn then line.dropLast else line

/-- How many bytes the first chunk takes, and the chunk. A part does not end in a carriage return, which
might belong to the end of the line. -/
def firstChunk (room : Nat) (bytes : List UInt8) : Nat × Chunk :=
  let line := (bytes.take room).takeWhile (· ≠ lineFeed)
  if line.length < (bytes.take room).length then (line.length + 1, ⟨withoutReturn line, true⟩)
  else if line.length < room then (line.length, ⟨line, true⟩)
  else
    let part := withoutReturn line
    (part.length, ⟨part, false⟩)

def chunks (room : Nat) (bytes : List UInt8) : List Chunk :=
  match bytes with
  | [] => []
  | first :: rest =>
    let (taken, chunk) := firstChunk room (first :: rest)
    chunk :: chunks room (rest.drop (taken - 1))
termination_by bytes.length
decreasing_by simp only [List.length_drop, List.length_cons]; omega

def bufferSize : Nat := 4096

def Chunk.string (chunk : Chunk) : ByteString :=
  .ofBytes ⟨chunk.bytes.toArray⟩

def inputLines (bytes : ByteArray) : List ByteString :=
  (chunks bufferSize bytes.toList).map Chunk.string

end Scriptlet.Text
