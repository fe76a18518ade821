import CratePlan.ApiDocument
import CratePlan.Endpoint.Trait
import CratePlan.Json.Writer
import CratePlan.Model

/-!
# Plans

A plan says everything about the layout of the generated crate: the type of every
schema, the trait of every endpoint, and the modules that declare them. It is made
from a document and settings, as a whole or not at all.

The steps come in a fixed order, since the first error is the one that is reported:
the settings, the models, their canonical types, and the traits.
-/

namespace CratePlan

/-- The layout of a crate. -/
structure Plan where
  models : List Model
  /-- Parents come before their children. -/
  traits : List Trait
  modules : Registry
  /-- The names of schemas that no convention recognises. -/
  skipped : List String
deriving Inhabited

/-- The traits of a document, and the registry in which they are declared. -/
def ApiDocument.traits (document : ApiDocument) (names : TraitNames) (registry : Registry) :
    Registry × Except PlanError (List Trait) :=
  match EndpointGraph.build names.names document.paths with
  | .error error => (registry, .error error)
  | .ok graph =>
    match graph.normalize with
    | (_, .error fault) => (registry, .error (.tree fault))
    | (graph, .ok ()) => graph.project names registry

/-- The two modules at the top of the crate. -/
def Settings.topDeclarations (settings : Settings) : List Declaration :=
  [⟨.root, Words.ofLabel settings.apiModule, .named⟩,
    ⟨.root, Words.ofLabel settings.modelsModule, .named⟩]

/-- The plan for a document. -/
def Plan.make (document : ApiDocument) (settings : Settings) : Except PlanError Plan := do
  let resolver ← (Resolver.ofSettings settings).mapError PlanError.settings
  let names ← (TraitNames.ofSettings settings).mapError PlanError.settings
  let document := document.renameSchemas settings.schemaRenames
  let (models, skipped) ← document.models resolver
  let (models, typed) := Model.withTypes document.schemas models
  let _ ← typed.mapError PlanError.misshapen
  let registry := models.foldl (fun registry model => registry.register model.modulePath) .empty
  match document.traits names registry with
  | (_, .error error) => .error error
  | (registry, .ok traits) =>
    .ok ⟨models, traits, settings.topDeclarations.foldl Registry.declare registry, skipped⟩

/-! ## The written plan -/

/-- A type in the written plan. -/
def TypePath.toJson (type : TypePath) : Json :=
  .object [("path", .string type.path.display), ("name", .string type.name)]

/-- A model in the written plan. -/
def Model.toJson (model : Model) : Json :=
  .object <|
    [("schema", .string model.schema), ("rust_type", model.type.toJson),
      ("module_path", .string model.modulePath.display)] ++
    model.odataType.toList.map fun type => ("odata_type", .string type)

/-- A trait in the written plan, which leaves out its payload. -/
def Trait.toJson (trait : Trait) : Json :=
  .object [("rust_type", trait.type.toJson), ("module_path", .string trait.modulePath.display),
    ("endpoint", .string trait.endpoint)]

/-- A submodule in the written plan. -/
def Submodule.toJson (submodule : Submodule) : Json :=
  .object [("name", .string submodule.name), ("visibility", .string submodule.visibility.label)]

/-- A module in the written plan. -/
def Module.toJson (module : Module) : Json :=
  .object [("path", .string module.path.display),
    ("submodules", .array (module.submodules.map Submodule.toJson))]

/-- The modules in the written plan. -/
def Registry.toJson (registry : Registry) : Json :=
  .object (registry.modules.entries.map fun entry => (entry.1, entry.2.toJson))

/-- The written plan. -/
def Plan.toJson (plan : Plan) : Json :=
  .object [("models", .array (plan.models.map Model.toJson)),
    ("traits", .array (plan.traits.map Trait.toJson)),
    ("modules", plan.modules.toJson),
    ("skipped", .ofStrings plan.skipped)]

end CratePlan
