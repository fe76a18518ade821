import CratePlan.Table
import CratePlan.ModulePath

/-!
# The modules of the generated crate

A module declares its submodules. One that is *named* is reached through its own
name; one that is *anonymous* is private to its parent, which exports all that is
in it, so that its name does not show in the paths of its types.

The registry holds every module that declares something, under the display of
its path and in the order in which the modules were first opened. Within a module
a name is declared once: a later declaration of the same name changes nothing,
not even when it asks for the other visibility.

## Main statements

* `Registry.find?_visit`: a visit changes the visited module and no other.
* `Module.find?_declare`: the first declaration of a name is the one that stays.
-/

namespace CratePlan

/-- How a module shows a submodule. -/
inductive Visibility where
  /-- Under its own name. -/
  | named
  /-- Private, with all that is in it exported by the parent. -/
  | anonymous
deriving Repr, DecidableEq, Inhabited

/-- The word for a visibility in the written plan. -/
def Visibility.label : Visibility → String
  | named => "named"
  | anonymous => "anonymous"

/-- A submodule as its parent declares it. -/
structure Submodule where
  words : Words
  visibility : Visibility
deriving Repr, DecidableEq, Inhabited

/-- The name that the declaration writes. -/
def Submodule.name (submodule : Submodule) : String :=
  submodule.words.moduleName

/-- A module and the submodules it declares, in the order of their declaration. -/
structure Module where
  path : ModulePath
  declared : Table Words Visibility
deriving DecidableEq, Inhabited

namespace Module

/-- A module that declares nothing yet. -/
def empty (path : ModulePath) : Module := ⟨path, Table.empty⟩

/-- Declare a submodule, unless its name is declared already. -/
def declare (module : Module) (words : Words) (visibility : Visibility) : Module :=
  { module with declared := module.declared.insertNew words visibility }

/-- The name is declared. -/
def declares (module : Module) (words : Words) : Bool :=
  module.declared.contains words

/-- The names that are declared with a visibility, in the order of names. -/
def namesWith (module : Module) (visibility : Visibility) : List Words :=
  ((module.declared.entries.filter fun entry => entry.2 = visibility).map Prod.fst).mergeSort
    fun a b => a.order b != .gt

/-- The submodules in the order in which they are written: named ones first, then
anonymous ones, each in the order of names. -/
def submodules (module : Module) : List Submodule :=
  (module.namesWith .named).map (⟨·, .named⟩) ++
    (module.namesWith .anonymous).map (⟨·, .anonymous⟩)

/-- The first declaration of a name is the one that stays. -/
theorem find?_declare (module : Module) (words other : Words) (visibility : Visibility) :
    (module.declare words visibility).declared.find? other =
      if other = words then some ((module.declared.find? words).getD visibility)
      else module.declared.find? other :=
  Table.find?_insertNew words other visibility module.declared

@[simp] theorem path_declare (module : Module) (words : Words) (visibility : Visibility) :
    (module.declare words visibility).path = module.path := rfl

end Module

/-- A submodule that a module is to declare. -/
structure Declaration where
  parent : ModulePath
  words : Words
  visibility : Visibility
deriving Repr, DecidableEq, Inhabited

/-- What must be declared for a path to exist: each name below the first in the
module that the names before it lead to, the last one anonymous. -/
def ModulePath.declarations (path : ModulePath) : List Declaration :=
  path.components.zipIdx.tail.map fun (words, index) =>
    ⟨path.take index, words, if index + 1 = path.length then .anonymous else .named⟩

/-- The modules that declare something, by the display of their paths. -/
structure Registry where
  modules : Table String Module
deriving DecidableEq, Inhabited

namespace Registry

/-- The registry without modules. -/
def empty : Registry := ⟨Table.empty⟩

/-- The module under a key. -/
def find? (key : String) (registry : Registry) : Option Module :=
  registry.modules.find? key

/-- The module at a path. -/
def at? (path : ModulePath) (registry : Registry) : Option Module :=
  registry.find? path.display

/-- Change the module at a path, opening it first where it is new. -/
def visit (path : ModulePath) (change : Module → Module) (registry : Registry) : Registry :=
  let module := (registry.at? path).getD (Module.empty path)
  ⟨registry.modules.insert path.display (change module)⟩

/-- Make sure that there is a module at a path. -/
def touch (path : ModulePath) (registry : Registry) : Registry :=
  registry.visit path id

/-- Carry out one declaration. -/
def declare (registry : Registry) (declaration : Declaration) : Registry :=
  registry.visit declaration.parent (·.declare declaration.words declaration.visibility)

/-- Declare every module that a path leads through, and its last one anonymously. -/
def register (registry : Registry) (path : ModulePath) : Registry :=
  path.declarations.foldl declare registry

/-- A visit changes the visited module and no other. -/
theorem find?_visit (path : ModulePath) (change : Module → Module) (registry : Registry)
    (key : String) :
    (registry.visit path change).find? key =
      if key = path.display then
        some (change ((registry.find? path.display).getD (Module.empty path)))
      else registry.find? key :=
  Table.find?_insert _ _ _ _

/-- A visit leaves the order of the modules as it is, and opens a new one at the end. -/
theorem keys_visit (path : ModulePath) (change : Module → Module) (registry : Registry) :
    (registry.visit path change).modules.keys =
      if path.display ∈ registry.modules.keys then registry.modules.keys
      else registry.modules.keys ++ [path.display] :=
  Table.keys_insert _ _ _

end Registry

end CratePlan
