import CratePlan.Proofs.NamedSchemas
import CratePlan.Proofs.Plan.Declarations

/-!
# What a plan lists of a document

Each schema of a document ends up in one of two lists of the plan. A convention recognises it, and
it has a model, or none does, and its name is skipped. The lists are made in one pass, so that both
are in the order of the document.

A plan comes to a schema in three ways. It is recognised by its reference, its model is listed under
its key, and whether the model has a canonical type is found out by looking up that key; the type
itself is read from the reference again. In a document that was filled in the ordinary way these are
one, also after the renames, and what decides is the last segment of the name of the schema.

## Main statements

* `Schema.lastSegment_reference`: the reference of a schema ends as its name does.
* `Plan.make_lists`: the two lists of a plan, and the types of its models.
-/

namespace CratePlan

open Outcome

/-- The reference of a schema ends in the last segment of its name. -/
theorem Schema.lastSegment_reference (name : String) (properties : List String) :
    Text.lastSegment (Schema.ofName name properties).reference = Text.lastSegment name := by
  have hText : (Schema.ofName name properties).reference.toList =
      "#/components/schemas".toList ++ '/' :: name.toList := by
    simp [Schema.ofName, Schema.referenceStart]
  rw [Text.lastSegment, hText, Text.afterLast_append, Text.lastSegment]

/-- No convention recognises a name exactly if a resolver has no match for it. -/
theorem Resolver.resolve?_eq_none_iff {resolver : Resolver} {name : String} :
    resolver.resolve? name = none ↔
      ∀ convention ∈ resolver.conventions, convention.match? name = none :=
  List.findSome?_eq_none_iff

namespace Plan

variable {document : ApiDocument} {settings : Settings} {plan : Plan} {resolver : Resolver}
  {schemas : Table String Schema}

/-- The plan lists the schemas: each is a model or skipped, by what its name ends in. -/
structure Lists (plan : Plan) (resolver : Resolver) (schemas : Table String Schema) : Prop where
  /-- The schemas are called and referred to by their keys. -/
  named : ApiDocument.IsNamed schemas
  map_name : schemas.values.map Schema.name = schemas.keys
  /-- No schema is left out and none is made up. -/
  perm_keys : (plan.models.map Model.schema ++ plan.skipped).Perm schemas.keys
  nodup : (plan.models.map Model.schema ++ plan.skipped).Nodup
  models_sublist : (plan.models.map Model.schema).Sublist schemas.keys
  skipped_sublist : plan.skipped.Sublist schemas.keys
  mem_skipped_iff : ∀ name, name ∈ plan.skipped ↔ name ∈ schemas.keys ∧
    ∀ convention ∈ resolver.conventions, convention.match? (Text.lastSegment name) = none
  /-- A model has a canonical type if its schema declares one, and it is that of the name. -/
  typed : ∀ model ∈ plan.models, ∃ schema, schemas.find? model.schema = some schema ∧
    (model.odataType.isSome = true ↔ schema.hasProperty Model.typeProperty = true) ∧
    ∀ type, model.odataType = some type →
      (SchemaName.parse (Text.lastSegment model.schema)).map SchemaName.canonicalType = .ok type

/-- A schema that is called by its key is recognised exactly if its name is. -/
theorem recognises_eq_false_iff (hNamed : ApiDocument.IsNamed schemas) {entry : String × Schema}
    (hEntry : entry ∈ schemas.entries) :
    resolver.recognises entry = false ↔
      ∀ convention ∈ resolver.conventions,
        convention.match? (Text.lastSegment entry.1) = none := by
  have hOwn := hNamed entry.1 entry.2 (Table.find?_eq_some_iff.2 hEntry)
  rw [Resolver.recognises, Resolver.resolveReference?, hOwn, Schema.lastSegment_reference,
    ← Resolver.resolve?_eq_none_iff]
  simp

/-- The keys that are passed over are those whose last segments no convention recognises. -/
theorem mem_unrecognised_iff (hNamed : ApiDocument.IsNamed schemas) {name : String} :
    name ∈ (schemas.entries.filter fun entry => !resolver.recognises entry).map Prod.fst ↔
      name ∈ schemas.keys ∧
        ∀ convention ∈ resolver.conventions, convention.match? (Text.lastSegment name) = none := by
  rw [Table.keys, List.mem_map, List.mem_map]
  constructor
  · intro hName
    obtain ⟨entry, hEntry, rfl⟩ := hName
    obtain ⟨hMem, hNone⟩ := List.mem_filter.1 hEntry
    refine ⟨⟨entry, hMem, rfl⟩, ?_⟩
    exact (recognises_eq_false_iff hNamed hMem).1 (by simpa using hNone)
  · intro hName
    obtain ⟨⟨entry, hMem, rfl⟩, hNone⟩ := hName
    have hUnknown := (recognises_eq_false_iff hNamed hMem).2 hNone
    exact ⟨entry, List.mem_filter.2 ⟨hMem, by simp [hUnknown]⟩, rfl⟩

/-- A model that is listed comes from the schema under its name, which decides on its type. -/
theorem exists_schema_of_steps {found models : List Model} {skipped : List String}
    (hNamed : ApiDocument.IsNamed schemas)
    (hModels : modelsOf resolver schemas.entries = .ok (found, skipped))
    (hTyped : Model.withTypes schemas found = (models, .ok ())) {model : Model}
    (hModel : model ∈ models) :
    ∃ schema, schemas.find? model.schema = some schema ∧
      (model.odataType.isSome = true ↔ schema.hasProperty Model.typeProperty = true) ∧
      ∀ type, model.odataType = some type →
        (SchemaName.parse (Text.lastSegment model.schema)).map SchemaName.canonicalType =
          .ok type := by
  rw [Model.withTypes_eq_filterMap hTyped] at hModel
  obtain ⟨source, hSource, hOutcome⟩ := List.mem_filterMap.1 hModel
  have hTypes : source.withType schemas = .ok model := toOption_eq_some_iff.1 hOutcome
  obtain ⟨entry, hEntry, match?, -, hMade⟩ := (mem_modelsOf_iff hModels source).1 hSource
  obtain ⟨hName, hNone, -⟩ := Model.ofMatch_eq_ok_iff.1 hMade
  -- The schema that the model is made of is the one that is found under the name of the model.
  have hModelName : model.schema = source.schema := by
    simpa [Model.untyped] using congrArg Model.schema (Model.untyped_of_withType hTypes)
  have hSchema : schemas.find? source.schema = some entry.2 := by
    rw [hName]
    exact Table.find?_eq_some_iff.2 hEntry
  obtain ⟨hDeclares, hType⟩ := Model.odataType_of_withType hSchema hNone hTypes
  refine ⟨entry.2, hModelName ▸ hSchema, hDeclares, ?_⟩
  intro type hSome
  have hCanonical := hType type hSome
  rw [canonicalTypeOf, hNamed _ _ hSchema, Schema.lastSegment_reference] at hCanonical
  rw [hModelName]
  exact hCanonical

/-- The steps from a table of schemas to the models of a plan list the table. -/
theorem lists_of_steps {found : List Model} (hNamed : ApiDocument.IsNamed schemas)
    (hModels : modelsOf resolver schemas.entries = .ok (found, plan.skipped))
    (hTyped : Model.withTypes schemas found = (plan.models, .ok ())) :
    plan.Lists resolver schemas := by
  obtain ⟨hFound, hSkipped⟩ := schemas_of_modelsOf hModels
  have hSame : plan.models.map Model.schema = found.map Model.schema := by
    have hUntyped := congrArg (List.map Model.schema) (Model.map_untyped_withTypes schemas found)
    rw [hTyped, List.map_map, List.map_map] at hUntyped
    exact hUntyped
  have hPerm : (plan.models.map Model.schema ++ plan.skipped).Perm schemas.keys := by
    rw [hSame, hFound, hSkipped, ← List.map_append]
    exact (List.filter_append_perm resolver.recognises schemas.entries).map Prod.fst
  exact
    { named := hNamed
      map_name := hNamed.map_name
      perm_keys := hPerm
      nodup := hPerm.nodup_iff.2 schemas.distinct
      models_sublist := hSame ▸ hFound ▸ List.filter_sublist.map Prod.fst
      skipped_sublist := hSkipped ▸ List.filter_sublist.map Prod.fst
      mem_skipped_iff := fun _ => hSkipped ▸ mem_unrecognised_iff hNamed
      typed := fun _ => exists_schema_of_steps hNamed hModels hTyped }

/-- A plan lists the schemas of its document as they are after the renames. -/
theorem make_lists (hDocument : document.Filled) (hPlan : Plan.make document settings = .ok plan) :
    ∃ resolver, Resolver.ofSettings settings = .ok resolver ∧
      plan.Lists resolver (document.renameSchemas settings.schemaRenames).schemas := by
  obtain ⟨resolver, names, found, registry, hResolver, -, hFound, hTyped, -⟩ := make_eq_ok hPlan
  have hNamed : ApiDocument.IsNamed (document.renameSchemas settings.schemaRenames).schemas :=
    hDocument.isNamed.renameAll settings.schemaRenames.entries
  exact ⟨resolver, hResolver, lists_of_steps hNamed (mapError_eq_ok_iff.1 hFound) hTyped⟩

/-- The plain settings with a new name for one schema. -/
def namingSettings : Settings :=
  { plainSettings with schemaRenames := Table.ofList [("inline", "A_B")] }

theorem resolver_namingSettings :
    Resolver.ofSettings namingSettings = .ok ⟨[.versioned, .unversioned], .ofLabel "models"⟩ :=
  resolver_plainSettings

/-- A document with a schema of a canonical type, one without, and one that no convention
recognises. The first has no name of its own before the renames. -/
def typedDocument : ApiDocument :=
  (((ApiDocument.empty.addSchema "inline" ["@odata.type", "Id"]).addSchema "ServiceRoot"
    []).addSchema "C/D_E" ["Id"]).addPath "/a" .null

theorem filled_typedDocument : typedDocument.Filled :=
  .path _ _ (.schema _ _ (.schema _ _ (.schema _ _ .empty)))

theorem make_typedDocument :
    (Plan.make typedDocument namingSettings).map (fun plan => plan.models.map Model.schema) =
      .ok ["C/D_E", "A_B"] := by
  have hNames : SegmentNames.ofSettings namingSettings = .ok .smallLetters :=
    segmentNames_plainSettings
  simp only [Plan.make, TraitNames.ofSettings, resolver_namingSettings, hNames]
  cbv

/-- The schema that is renamed is listed last, under its new name, and has the type of that. -/
theorem typedDocument_listed :
    ∃ plan, Plan.make typedDocument namingSettings = .ok plan ∧
      (plan.models.map Model.schema ++ plan.skipped).Perm ["ServiceRoot", "C/D_E", "A_B"] ∧
      (plan.models.map Model.schema).Sublist ["ServiceRoot", "C/D_E", "A_B"] ∧
      "ServiceRoot" ∈ plan.skipped ∧
      ∃ model ∈ plan.models, model.schema = "A_B" ∧ model.odataType = some "#A.B" := by
  obtain ⟨plan, hPlan, hNames⟩ := map_eq_ok_iff.1 make_typedDocument
  obtain ⟨resolver, hResolver, hLists⟩ := make_lists filled_typedDocument hPlan
  rw [resolver_namingSettings, Except.ok.injEq] at hResolver
  subst hResolver
  have hKeys : (typedDocument.renameSchemas namingSettings.schemaRenames).schemas.keys =
      ["ServiceRoot", "C/D_E", "A_B"] := rfl
  have hMember : "A_B" ∈ plan.models.map Model.schema := by simp [hNames]
  obtain ⟨model, hModel, hName⟩ := List.mem_map.1 hMember
  obtain ⟨schema, hSchema, hDeclares, hType⟩ := hLists.typed model hModel
  rw [hName] at hSchema hType
  have hOwn : (typedDocument.renameSchemas namingSettings.schemaRenames).schemas.find? "A_B" =
      some (.ofName "A_B" ["@odata.type", "Id"]) := rfl
  obtain rfl := Option.some.inj (hOwn.symm.trans hSchema)
  obtain ⟨type, hSome⟩ := Option.isSome_iff_exists.1 (hDeclares.2 (by decide))
  have hSpelled : (SchemaName.parse (Text.lastSegment "A_B")).map SchemaName.canonicalType =
      .ok "#A.B" := by decide
  obtain rfl : "#A.B" = type := Except.ok.inj (hSpelled.symm.trans (hType type hSome))
  refine ⟨plan, hPlan, hKeys ▸ hLists.perm_keys, hKeys ▸ hLists.models_sublist, ?_, model, hModel,
    hName, hSome⟩
  exact (hLists.mem_skipped_iff "ServiceRoot").2 ⟨by simp [hKeys], by decide⟩

end Plan

end CratePlan
