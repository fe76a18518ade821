import CratePlan.Identifier
import CratePlan.Text.Segment

/-!
# The two shapes of a schema name

Most schemas are published once for every version of their module, under a name of
the shape `Module_vX_Y_Z_Model`; the others are called `Module_Model`. The model is
always the last part and has no underscore, so a name is taken apart from its end.
What is left in front is the module, which may have underscores and hyphens.

A versioned name has the unversioned shape as well. `SchemaName.parse` prefers the
versioned reading, and reports a name of neither shape as not unversioned.
-/

namespace CratePlan

open CratePlan.Text

/-- The shape that a schema name was expected to have. -/
inductive SchemaShape where
  | versioned
  | unversioned
deriving Repr, DecidableEq, Inhabited

/-- The words for a shape in a message. -/
def SchemaShape.label : SchemaShape → String
  | versioned => "a versioned"
  | unversioned => "an unversioned"

/-- A name that does not have the shape it was expected to have. -/
structure ShapeError where
  identifier : String
  shape : SchemaShape
deriving Repr, DecidableEq

/-- The text can name a module: it begins with a letter or digit, and underscores
and hyphens may follow. -/
def isModuleText : List Char → Bool
  | [] => false
  | c :: rest => c.isAlphanum && rest.all fun d => d.isAlphanum || d == '_' || d == '-'

/-- The text can name a model: letters and digits, at least one. -/
def isModelText (text : List Char) : Bool :=
  !text.isEmpty && text.all Char.isAlphanum

/-- The text is a number of a version: digits, at least one. -/
def isVersionNumber (text : List Char) : Bool :=
  !text.isEmpty && text.all Char.isDigit

/-- The text begins a version: a small `v` and a number. -/
def isVersionStart : List Char → Bool
  | 'v' :: number => isVersionNumber number
  | _ => false

/-- A name of the shape `Module_vX_Y_Z_Model`. -/
structure VersionedName where
  module : String
  version : String
  model : String
deriving Repr, DecidableEq, Inhabited

namespace VersionedName

/-- Take a versioned name apart, from its end. -/
def ofText? (name : String) : Option VersionedName := do
  let (front, model) ← splitAtLast? '_' name.toList
  let (front, patch) ← splitAtLast? '_' front
  let (front, minor) ← splitAtLast? '_' front
  let (module, major) ← splitAtLast? '_' front
  if isModuleText module && isVersionStart major && isVersionNumber minor &&
      isVersionNumber patch && isModelText model then
    some {
      module := String.ofList module
      version := String.ofList (major ++ '_' :: (minor ++ '_' :: patch))
      model := String.ofList model }
  else none

/-- Take a versioned name apart, or report it. -/
def parse (name : String) : Except ShapeError VersionedName :=
  match ofText? name with
  | some parts => .ok parts
  | none => .error ⟨name, .versioned⟩

/-- The modules that lead to the model. -/
def modulePath (name : VersionedName) : List Identifier :=
  [Identifier.ofLabel name.module, Identifier.ofLabel name.version]

end VersionedName

/-- A name of the shape `Module_Model`. -/
structure UnversionedName where
  module : String
  model : String
deriving Repr, DecidableEq, Inhabited

namespace UnversionedName

/-- Take an unversioned name apart, at its last underscore. -/
def ofText? (name : String) : Option UnversionedName := do
  let (module, model) ← splitAtLast? '_' name.toList
  if isModuleText module && isModelText model then
    some { module := String.ofList module, model := String.ofList model }
  else none

/-- Take an unversioned name apart, or report it. -/
def parse (name : String) : Except ShapeError UnversionedName :=
  match ofText? name with
  | some parts => .ok parts
  | none => .error ⟨name, .unversioned⟩

end UnversionedName

/-- A schema name of either shape. -/
inductive SchemaName where
  | versioned (name : VersionedName)
  | unversioned (name : UnversionedName)
deriving Repr, DecidableEq, Inhabited

namespace SchemaName

/-- Take a name apart, as a versioned one if it has that shape. -/
def parse (name : String) : Except ShapeError SchemaName :=
  match VersionedName.ofText? name with
  | some parts => .ok (.versioned parts)
  | none => (UnversionedName.parse name).map .unversioned

/-- The module part of a name. -/
def module : SchemaName → String
  | versioned name => name.module
  | unversioned name => name.module

/-- The model part of a name. -/
def model : SchemaName → String
  | versioned name => name.model
  | unversioned name => name.model

/-- The canonical type: the parts of the name behind a number sign, with full stops
between them. -/
def canonicalType : SchemaName → String
  | versioned name => "#" ++ name.module ++ "." ++ name.version ++ "." ++ name.model
  | unversioned name => "#" ++ name.module ++ "." ++ name.model

end SchemaName

/-- The canonical type of the schema that a reference leads to. -/
def canonicalTypeOf (reference : String) : Except ShapeError String :=
  (SchemaName.parse (lastSegment reference)).map SchemaName.canonicalType

end CratePlan
