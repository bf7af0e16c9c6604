import Scriptlet.Path

/-! Files and directories, as a value. -/
namespace Scriptlet

inductive FileFault
  | notFound
  | notDirectory
  | isDirectory
  | noSpace
  | other (reason : String)
deriving DecidableEq, Repr

def FileFault.message : FileFault → String
  | notFound => "no such file or directory"
  | notDirectory => "not a directory"
  | isDirectory => "is a directory"
  | noSpace => "no space left on device"
  | other reason => reason

/-- What stands at a path. A full device can be opened, but takes no bytes. -/
inductive FileEntry
  | directory
  | file (content : ByteArray)
  | full

/-- Entries by the names on the way to them from the root, which is a directory. -/
structure FileTree where
  entries : List (List String × FileEntry) := []

namespace FileTree

def entry? (tree : FileTree) (names : List String) : Option FileEntry :=
  if names.isEmpty then some .directory else (tree.entries.find? (·.1 == names)).map (·.2)

def isDirectory (tree : FileTree) (names : List String) : Bool :=
  match tree.entry? names with
  | some .directory => true
  | _ => false

def set (tree : FileTree) (names : List String) (entry : FileEntry) : FileTree :=
  ⟨tree.entries.filter (·.1 != names) ++ [(names, entry)]⟩

def walk (tree : FileTree) (place : List String) : List String → Except FileFault (List String)
  | [] => .ok place
  | name :: rest =>
    match tree.entry? place with
    | none => .error .notFound
    | some .directory =>
      let next := match name with
        | "." => place
        | ".." => place.dropLast
        | _ => place ++ [name]
      tree.walk next rest
    | some _ => .error .notDirectory

/-- The place of a path, which is relative to `directory` unless it begins at the root. A slash at its
end asks for a directory. -/
def locate (tree : FileTree) (directory : List String) (path : String) :
    Except FileFault (List String) :=
  if path.isEmpty then .error .notFound
  else
    let ending := if path.endsWith "/" then ["."] else []
    tree.walk (if Path.isAbsolute path then [] else directory) (Path.names path ++ ending)

def read (tree : FileTree) (directory : List String) (path : String) :
    Except FileFault ByteArray := do
  match tree.entry? (← tree.locate directory path) with
  | none => .error .notFound
  | some .directory => .error .isDirectory
  | some (.file content) => .ok content
  | some .full => .ok .empty

def write (tree : FileTree) (directory : List String) (path : String) (content : ByteArray) :
    Except FileFault FileTree := do
  let place ← tree.locate directory path
  match tree.entry? place with
  | some .directory => .error .isDirectory
  | some .full => if content.isEmpty then .ok tree else .error .noSpace
  | _ => .ok (tree.set place (.file content))

def find? (tree : FileTree) (directory : List String) (path : String) : Option FileEntry :=
  match tree.locate directory path with
  | .ok place => tree.entry? place
  | .error _ => none

/-- Makes the directories on the way along `names`; `made` are those behind. A fault comes with the
place where it arose. -/
def makeAlong (tree : FileTree) (made : List String) :
    List String → FileTree × Except (List String × FileFault) Unit
  | [] => (tree, .ok ())
  | name :: rest =>
    let place := made ++ [name]
    match tree.entry? place with
    | none => (tree.set place .directory).makeAlong place rest
    | some .directory => tree.makeAlong place rest
    | some _ => (tree, .error (place, .notDirectory))

def children (tree : FileTree) (place : List String) : List String :=
  ((tree.entries.filterMap fun (names, _) =>
    if names.length = place.length + 1 && place.isPrefixOf names then names.getLast? else none)
    ).mergeSort (· ≤ ·)

def changes (before after : FileTree) : List (String × ByteArray) :=
  after.entries.filterMap fun (names, entry) =>
    match entry, before.entry? names with
    | .file content, some (.file old) =>
      if content.toList = old.toList then none else some ("/" ++ "/".intercalate names, content)
    | .file content, _ => some ("/" ++ "/".intercalate names, content)
    | _, _ => none

def plant (tree : FileTree) (names : List String) (entry : FileEntry) : FileTree :=
  (tree.makeAlong [] names.dropLast).1.set names entry

end FileTree

end Scriptlet
