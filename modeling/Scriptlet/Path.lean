import Scriptlet.Text.Lines

/-! Paths as texts: names separated by slashes. -/
namespace Scriptlet.Path

def isAbsolute (path : String) : Bool :=
  path.toList.head? == some '/'

def names (path : String) : List String :=
  ((Text.splitAt '/' path.toList).filter (!·.isEmpty)).map String.ofList

/-- One more name after those already taken, last first: `.` adds nothing, and `..` takes away the last
name. What is above the root is the root. -/
def descend (rooted : Bool) (taken : List String) (name : String) : List String :=
  match name, taken with
  | ".", _ => taken
  | "..", [] => if rooted then [] else [name]
  | "..", last :: before => if last = ".." then name :: taken else before
  | _, _ => name :: taken

def clean (path : String) : String :=
  let rooted := isAbsolute path
  let shortest := "/".intercalate ((names path).foldl (descend rooted) []).reverse
  if rooted then "/" ++ shortest else if shortest.isEmpty then "." else shortest

def join (directory path : String) : String :=
  if directory.isEmpty then (if path.isEmpty then "" else clean path)
  else if path.isEmpty then clean directory
  else clean (directory ++ "/" ++ path)

def parent (path : String) : String :=
  clean (String.ofList (path.toList.reverse.dropWhile (· ≠ '/')).reverse)

end Scriptlet.Path
