import Scriptlet.Text.Chunk

/-! The history of a dialogue: its latest entries, oldest first. -/
namespace Scriptlet

abbrev History := List ByteString

namespace History

def limit : Nat := 1000

def latest (history : History) : History :=
  history.drop (history.length - limit)

def add (history : History) (entry : ByteString) : History :=
  if history.getLast? = some entry then history else latest (history ++ [entry])

/-- The entries of a file, one on a line, up to the first that is too long or not well formed. -/
def ofBytes (bytes : ByteArray) : History :=
  latest (((Text.chunks Text.bufferSize bytes.toList).takeWhile fun chunk =>
    chunk.isWhole && Text.isWellFormed ⟨chunk.bytes.toArray⟩).map Text.Chunk.string)

def toBytes (history : History) : ByteArray :=
  history.foldl (fun written entry => written ++ entry.bytes ++ "\n".toUTF8) .empty

end History

end Scriptlet
