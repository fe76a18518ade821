import CratePlan.Error
import CratePlan.Pattern.Reader
import CratePlan.Pattern.Match
import CratePlan.Schema.Name

/-!
# Naming conventions for schemas

A convention recognises some schema names and says, for each of them, which
modules it lies in and what its model is called. Two conventions are the two
shapes of a schema name. The others come from the settings: a pattern and the
module that everything it matches is placed in.
-/

namespace CratePlan

/-- Where a schema belongs: the modules below the models module, and its model. -/
structure SchemaMatch where
  module : List Identifier
  model : Identifier
deriving Repr, DecidableEq, Inhabited

/-- A way to recognise schema names. -/
inductive Convention where
  /-- Names of the versioned shape, in a module and a module for the version. -/
  | versioned
  /-- Names that match a pattern, in a fixed module; the group `model` of the
  pattern is the model. -/
  | fixed (pattern : Pattern) (module : Identifier)
  /-- Names of the unversioned shape, in a module. -/
  | unversioned
deriving Repr, DecidableEq, Inhabited

namespace Convention

/-- The group of a pattern that names the model. -/
def modelGroup : String := "model"

/-- The convention that a pattern describes, if it is one and has the group. -/
def ofPattern (pattern module : String) : Except SettingsFault Convention :=
  match Pattern.ofText? pattern with
  | none => .error (.modelPattern pattern)
  | some tree =>
    if modelGroup ∈ tree.groupNames then .ok (.fixed tree (Identifier.ofLabel module))
    else .error (.modelGroup pattern)

/-- The word for a kind of convention. -/
def label : Convention → String
  | versioned => "versioned"
  | fixed _ _ => "simple"
  | unversioned => "unversioned"

/-- Where a convention places a schema, if it recognises the name. -/
def match? (convention : Convention) (name : String) : Option SchemaMatch :=
  match convention with
  | versioned =>
    (VersionedName.ofText? name).map fun parts =>
      ⟨parts.modulePath, Identifier.ofLabel parts.model⟩
  | fixed pattern module =>
    (pattern.capture? modelGroup name).map fun model => ⟨[module], Identifier.ofLabel model⟩
  | unversioned =>
    (UnversionedName.ofText? name).map fun parts =>
      ⟨[Identifier.ofLabel parts.module], Identifier.ofLabel parts.model⟩

end Convention

end CratePlan
