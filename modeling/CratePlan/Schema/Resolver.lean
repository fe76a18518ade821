import CratePlan.ModulePath
import CratePlan.Schema.Convention
import CratePlan.Settings

/-!
# From a schema name to a type

A resolver asks its conventions in order, and the first that recognises a name
places it. The type of the schema is reached through the modules of the match;
the file that defines it is one module further down, named after the model, which
its parent declares anonymously.
-/

namespace CratePlan

/-- Conventions in the order in which they are asked, and the module that all
models are in. -/
structure Resolver where
  conventions : List Convention
  base : Identifier
deriving Repr, DecidableEq, Inhabited

namespace Resolver

/-- The resolver that the settings describe: the versioned shape first, then the
fixed modules, and the unversioned shape for what is left. -/
def ofSettings (settings : Settings) : Except SettingsFault Resolver := do
  let fixed ← settings.fixedModules.mapM fun entry =>
    Convention.ofPattern entry.pattern entry.module
  return ⟨.versioned :: fixed ++ [.unversioned], Identifier.ofLabel settings.modelsModule⟩

/-- The match of the first convention that recognises a name. -/
def resolve? (resolver : Resolver) (name : String) : Option SchemaMatch :=
  resolver.conventions.findSome? (·.match? name)

/-- The match of the name that a reference ends in. -/
def resolveReference? (resolver : Resolver) (reference : String) : Option SchemaMatch :=
  resolver.resolve? (Text.lastSegment reference)

/-- The path of the module that all models are in. -/
def basePath (resolver : Resolver) : ModulePath :=
  .ofCrate [resolver.base.words]

/-- The path that a match is reached through. -/
def parentPath (resolver : Resolver) (found : SchemaMatch) : ModulePath :=
  found.module.foldl (fun path component => path.append component.words) resolver.basePath

/-- The type of a match. Each module on the way to it must be writable, and then
the model. -/
def typePath (resolver : Resolver) (found : SchemaMatch) : Except CaseError TypePath := do
  for component in found.module do
    let _ ← component.render .snake
  TypePath.ofIdentifier (resolver.parentPath found) found.model

/-- The module that defines the type of a match. -/
def modulePath (resolver : Resolver) (found : SchemaMatch) : Except CaseError ModulePath := do
  let type ← resolver.typePath found
  let _ ← found.model.render .snake
  return type.path.append found.model.words

end Resolver

end CratePlan
