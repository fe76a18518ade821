import CratePlan.ApiDocument
import CratePlan.Settings
import CratePlan.Text.Blank
import CratePlan.Yaml.Content

/-!
# Documents and settings as YAML

What a document or the settings look like when they are written as YAML, and so
also when they are written as JSON. Fields that are not known are left unread.
Schemas are read for the names of their properties, but each property must be
readable; paths are read for whatever they hold.

Settings that are left out keep their defaults, and so do all of them if the text is
blank.
-/

namespace CratePlan.Yaml

/-- The properties of a schema. A schema stands four levels below the surface of a
document, and its properties a level further down. -/
def readProperties (document : Document) (node : Node) : Reading (List String) := do
  match (← document.fields ["properties"] node) with
  | [] => return []
  | (_, properties) :: _ =>
    return (← document.table (document.content false (depthLimit - 5)) properties).keys

/-- The schemas of a document. -/
def readSchemas (document : Document) (node : Node) : Reading (Table String Schema) := do
  match (← document.fields ["schemas"] node) with
  | [] => return Table.empty
  | (_, schemas) :: _ =>
    return (← document.table (readProperties document) schemas).mapValues Schema.ofName

/-- The schemas and paths of a document. -/
def readApiDocument (document : Document) (node : Node) : Reading ApiDocument := do
  let fields ← document.fields ["components", "paths"] node
  let schemas ←
    match fields.lookup "components" with
    | none => pure Table.empty
    | some components => readSchemas document components
  let paths ←
    match fields.lookup "paths" with
    | none => pure Table.empty
    | some paths => document.table (document.json (depthLimit - 2)) paths
  return ⟨schemas, paths⟩

/-- A fixed module, which must have both of its fields. -/
def readFixedModule (document : Document) (node : Node) : Reading FixedModule := do
  let fields ← document.fields ["pattern", "module"] node
  match fields.lookup "pattern", fields.lookup "module" with
  | some pattern, some module => return ⟨← document.text pattern, ← document.text module⟩
  | _, _ => failure

/-- The value of a field, or a default if the field is left out. -/
def fieldOr {α : Type} (fields : List (String × Node)) (name : String) (default : α)
    (reading : Node → Reading α) : Reading α :=
  match fields.lookup name with
  | none => pure default
  | some node => reading node

/-- The names of the settings. -/
def settingNames : List String :=
  ["models_base_module", "api_base_module", "simple_models", "inline_schema_names",
    "trait_name_overrides", "path_name_patterns"]

/-- The settings. -/
def readSettings (document : Document) (node : Node) : Reading Settings := do
  let fields ← document.fields settingNames node
  let listOf {α : Type} (item : Node → Reading α) (node : Node) : Reading (List α) := do
    (← document.items node).mapM item
  let texts := document.table document.text
  return {
    modelsModule :=
      ← fieldOr fields "models_base_module" Settings.default.modelsModule document.text
    apiModule := ← fieldOr fields "api_base_module" Settings.default.apiModule document.text
    fixedModules :=
      ← fieldOr fields "simple_models" Settings.default.fixedModules
        (listOf (readFixedModule document))
    schemaRenames :=
      ← fieldOr fields "inline_schema_names" Settings.default.schemaRenames texts
    traitRenames :=
      ← fieldOr fields "trait_name_overrides" Settings.default.traitRenames texts
    segmentPatterns :=
      ← fieldOr fields "path_name_patterns" Settings.default.segmentPatterns
        (listOf document.text) }

end CratePlan.Yaml

namespace CratePlan

/-- The document that a text describes. -/
def ApiDocument.ofYaml? (text : String) : Option ApiDocument := do
  let document ← Yaml.Document.ofText? text
  document.read? (Yaml.readApiDocument document)

/-- The settings that a text describes. -/
def Settings.ofYaml? (text : String) : Option Settings := do
  if Text.allBlank text then return Settings.default
  let document ← Yaml.Document.ofText? text
  document.read? (Yaml.readSettings document)

end CratePlan
