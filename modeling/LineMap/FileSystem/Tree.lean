import LineMap.FileSystem.Basic
/-!
# File trees — a file system held in memory

A tree of directories and files, each at the list of the names that lead
to it from the root. Directories above a file or a directory of the tree
need no entry of their own. A path is followed name by name: each step
needs a directory to start from, two dots lead to the directory above, and
the root is the directory above itself.
-/

namespace LineMap

/-- What stands at a place of a tree. -/
inductive FileTree.Entry
  | file (content : List UInt8)
  | directory
deriving DecidableEq

/-- The entries of a tree, and the place that relative paths start from.
Of two entries at one place the first counts. -/
structure FileTree where
  workingDirectory : List String
  entries : List (List String × FileTree.Entry)

namespace FileTree

/-- The longest name that a directory can hold, in bytes. -/
def nameLimit : Nat := 255

/-- The length, in bytes, from which on a path is too long. -/
def pathLimit : Nat := 4096

/-- The tree with an entry at a path, in place of an entry there before. -/
def insert (t : FileTree) (path : Path) (entry : Entry) : FileTree :=
  let base := if path.root = .none then t.workingDirectory else []
  { t with entries := (base ++ path.names, entry) :: t.entries }

/-- What stands at a place, if anything does. -/
def find? (t : FileTree) (place : List String) : Option Entry :=
  match t.entries.find? (·.1 = place) with
  | some found => some found.2
  | none =>
    if place.isPrefixOf t.workingDirectory || t.entries.any (place.isPrefixOf ·.1) then
      some .directory
    else none

/-- The place that a name leads to. -/
def step (t : FileTree) (place : List String) (name : String) :
    Except ReadFailure (List String) :=
  match t.find? place with
  | some .directory =>
    if name = ".." then .ok place.dropLast
    else if nameLimit < name.utf8ByteSize then .error .nameTooLong
    else
      match t.find? (place ++ [name]) with
      | some _ => .ok (place ++ [name])
      | none => .error .missing
  | some (.file _) => .error .notDirectory
  | none => .error .missing

/-- **The bytes that a path leads to.** -/
def read (t : FileTree) (path : Path) : Except ReadFailure (List UInt8) :=
  if pathLimit ≤ path.text.utf8ByteSize then .error .nameTooLong
  else do
    let base := if path.root = .none then t.workingDirectory else []
    let place ← path.names.foldlM t.step base
    match t.find? place with
    | some (.file content) => .ok content
    | some .directory => .error .isDirectory
    | none => .error .missing

/-- A tree as a file system, without a table of users. -/
def toFileSystem (t : FileTree) : FileSystem where
  read := t.read

end FileTree

end LineMap
