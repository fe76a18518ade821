import CratePlan.CaseStyle
import CratePlan.Keyword

/-!
# Paths to modules and types

A module of the generated crate is named by the modules that lead to it, from
the crate's root or from the module in which the path is written. A path is only
a list of names; whether each of them can be written as a module name is asked
where the names come from, and the display of a path writes them all the same.

A type is named by its module and its own name in `PascalCase`.
-/

namespace CratePlan

/-- Where a path begins. -/
inductive Anchor where
  /-- At the root of the crate. -/
  | crate
  /-- In the module that the path is written in. -/
  | relative
deriving Repr, DecidableEq, Inhabited

/-- The names of the modules that lead to a module. -/
structure ModulePath where
  anchor : Anchor
  components : List Words
deriving Repr, DecidableEq, Inhabited

namespace ModulePath

/-- The root of the crate. -/
def root : ModulePath := ⟨.crate, []⟩

/-- A path from the root of the crate. -/
def ofCrate (components : List Words) : ModulePath := ⟨.crate, components⟩

/-- The number of names. -/
def length (path : ModulePath) : Nat := path.components.length

/-- The path of a module inside this one. -/
def append (path : ModulePath) (name : Words) : ModulePath :=
  ⟨path.anchor, path.components ++ [name]⟩

/-- The path made of the first `n` names. -/
def take (path : ModulePath) (n : Nat) : ModulePath :=
  ⟨path.anchor, path.components.take n⟩

/-- The name of the module itself. -/
def last? (path : ModulePath) : Option Words := path.components.getLast?

/-- What the display of a path is put together from. -/
def parts (path : ModulePath) : List String :=
  (match path.anchor with
    | .crate => ["crate"]
    | .relative => []) ++ path.components.map Words.moduleName

/-- The path as it is written in the generated crate. -/
def display (path : ModulePath) : String :=
  String.intercalate "::" path.parts

@[simp] theorem length_append (path : ModulePath) (name : Words) :
    (path.append name).length = path.length + 1 := by
  simp [append, length]

@[simp] theorem last?_append (path : ModulePath) (name : Words) :
    (path.append name).last? = some name := by
  simp [append, last?]

@[simp] theorem anchor_append (path : ModulePath) (name : Words) :
    (path.append name).anchor = path.anchor := rfl

@[simp] theorem components_append (path : ModulePath) (name : Words) :
    (path.append name).components = path.components ++ [name] := rfl

/-- Taking the names that a path had before it was extended gives the path. -/
@[simp] theorem take_append (path : ModulePath) (name : Words) :
    (path.append name).take path.length = path := by
  simp [append, take, length]

end ModulePath

/-- A type of the generated crate: the module that it is reached through, and its
name. -/
structure TypePath where
  path : ModulePath
  name : String
deriving Repr, DecidableEq, Inhabited

namespace TypePath

/-- The type that an identifier names in a module. -/
def ofIdentifier (path : ModulePath) (identifier : Identifier) : Except CaseError TypePath :=
  (identifier.render .pascal).map fun name => ⟨path, name⟩

/-- The type as it is written in the generated crate. -/
def display (type : TypePath) : String :=
  type.path.display ++ "::" ++ type.name

end TypePath

end CratePlan
