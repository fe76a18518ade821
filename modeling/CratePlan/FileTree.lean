import CratePlan.Error

/-!
# Files

A run reads two files at most, and what it does depends on what it finds under
their names. So files are a function here, from names to what is there, and a
`FileTree` is one way to have such a function: a working directory with files and
directories in it.
-/

namespace CratePlan

/-- What there is under a name. -/
inductive FileState where
  | file (bytes : ByteArray)
  | directory
  | missing
  /-- Something that cannot be read, for a reason in the words of the system. -/
  | unreadable (reason : String)
deriving Inhabited

namespace FileState

/-- There is something. -/
def isPresent : FileState → Bool
  | file _ => true
  | directory => true
  | _ => false

/-- The text of a file. -/
def text : FileState → Except ReadFault String
  | file bytes =>
    match String.fromUTF8? bytes with
    | some text => .ok text
    | none => .error .notText
  | directory => .error .directory
  | missing => .error .missing
  | unreadable reason => .error (.other reason)

end FileState

/-- What there is, for every name. -/
abbrev Files := String → FileState

/-- A working directory: files with their bytes, and directories, by the segments of
their paths. The directories on the way to an entry are there as well. -/
structure FileTree where
  entries : List (List String × Option ByteArray)
deriving Inhabited

namespace FileTree

/-- The segments of a path. -/
def segments (path : String) : List String :=
  path.splitOn "/"

/-- The segments of a path that move anywhere. -/
def steps (path : String) : List String :=
  (segments path).filter fun segment => segment != "" && segment != "."

/-- A tree from paths with bytes, or without them for directories. What is written to
a path last is what is there. -/
def ofList (entries : List (String × Option ByteArray)) : FileTree :=
  ⟨(entries.map fun entry => (steps entry.1, entry.2)).reverse⟩

/-- What there is at a place of the tree. -/
def at? (tree : FileTree) (place : List String) : FileState :=
  match tree.entries.lookup place with
  | some (some bytes) => .file bytes
  | some none => .directory
  | none =>
    if place.isEmpty || tree.entries.any (fun entry => place.isPrefixOf entry.1) then .directory
    else .missing

/-- The reason why a path cannot lead through a file. -/
def notADirectory : String := "Not a directory (os error 20)"

/-- What there is behind more segments of a path, from a directory of the tree. -/
def walk (tree : FileTree) (place : List String) : List String → FileState
  | [] => tree.at? place
  | "." :: rest => tree.walk place rest
  | "" :: rest => tree.walk place rest
  | ".." :: rest => if place.isEmpty then .missing else tree.walk place.dropLast rest
  | name :: rest =>
    match tree.at? (place ++ [name]) with
    | .directory => tree.walk (place ++ [name]) rest
    | .file bytes => if rest.isEmpty then .file bytes else .unreadable notADirectory
    | other => other

/-- What there is under a name. Nothing outside the tree is known. -/
def files (tree : FileTree) : Files := fun path =>
  if path == "" || path.toList.head? == some '/' then .missing
  else tree.walk [] (segments path)

end FileTree

end CratePlan
