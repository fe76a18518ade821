import CratePlan.ApiDocument
import CratePlan.Schema.Resolver

/-!
# Models

A schema that a convention recognises becomes a model: a type, and the module that
defines it. The others are skipped, which is no error. A model whose schema has the
property `@odata.type` also gets the canonical type of its schema.

The canonical types are found for all models in a row, after the models themselves.
A schema that needs one and has a name of neither shape ends the row; the models
before it have theirs by then.
-/

namespace CratePlan

/-- What becomes of a schema. -/
structure Model where
  /-- The name of the schema. -/
  schema : String
  type : TypePath
  /-- The module that defines the type. -/
  modulePath : ModulePath
  /-- The canonical type of the schema, if it declares one. -/
  odataType : Option String
deriving Repr, DecidableEq, Inhabited

namespace Model

/-- The model of a schema that a convention has placed. -/
def ofMatch (resolver : Resolver) (schema : String) (found : SchemaMatch) :
    Except CaseError Model := do
  let type ← resolver.typePath found
  let modulePath ← resolver.modulePath found
  return ⟨schema, type, modulePath, none⟩

/-- The property of a schema that has a canonical type. -/
def typeProperty : String := "@odata.type"

/-- A model with the canonical type of its schema, if that declares one. -/
def withType (schemas : Table String Schema) (model : Model) : Except ShapeError Model :=
  match schemas.find? model.schema with
  | none => .ok model
  | some schema =>
    if schema.hasProperty typeProperty then
      (canonicalTypeOf schema.reference).map fun type => { model with odataType := some type }
    else .ok model

/-- Models with the canonical types of their schemas, up to the first that has none
and should. -/
def withTypes (schemas : Table String Schema) : List Model → List Model × Except ShapeError Unit
  | [] => ([], .ok ())
  | model :: rest =>
    match model.withType schemas with
    | .error fault => (model :: rest, .error fault)
    | .ok model =>
      let (others, outcome) := withTypes schemas rest
      (model :: others, outcome)

end Model

/-- The models of schemas, and the names of the schemas that are skipped, both in the
order of the schemas. -/
def modelsOf (resolver : Resolver) :
    List (String × Schema) → Except CaseError (List Model × List String)
  | [] => .ok ([], [])
  | (name, schema) :: rest =>
    match resolver.resolveReference? schema.reference with
    | none => do
      let (models, skipped) ← modelsOf resolver rest
      return (models, name :: skipped)
    | some found => do
      let model ← Model.ofMatch resolver name found
      let (models, skipped) ← modelsOf resolver rest
      return (model :: models, skipped)

/-- The models of a document, and the names of the schemas that are skipped. -/
def ApiDocument.models (document : ApiDocument) (resolver : Resolver) :
    Except PlanError (List Model × List String) :=
  (modelsOf resolver document.schemas.entries).mapError .unwritable

end CratePlan
