import CratePlan.Proofs.Endpoint.Acceptance
import CratePlan.Proofs.Plan.Declarations

/-!
# When there is a plan

A plan is made in five steps, each with errors of its own. Whether it succeeds can be
said without the steps: the settings, each schema and each path have to meet a condition,
and none of these conditions is about two of them.

For the steps in a row this is read off their definitions. The step in which it takes a
proof is that of the traits. The tree of endpoints never stands in the way, and what the
segments above an endpoint are called is asked again for each endpoint but is always
answered as before.

## Main statements

* `Resolver.exists_ofSettings_iff`, `TraitNames.exists_ofSettings_iff`: which settings can
  be used.
* `exists_typed_models_iff`: which schemas become models with canonical types.
* `ApiDocument.exists_traits_iff`, `ApiDocument.ownError_of_traits`: which paths get traits.
* `Plan.make_eq_error`: what a plan may fail for.
* `Plan.make_succeeds_iff`: when there is a plan.
-/

namespace CratePlan

open Outcome

/-! ## The settings -/

/-- Every pattern of the settings is one and has the group that it is used for. -/
structure Settings.Usable (settings : Settings) : Prop where
  fixedModules : ∀ entry ∈ settings.fixedModules, ∃ pattern,
    Pattern.ofText? entry.pattern = some pattern ∧ Convention.modelGroup ∈ pattern.groupNames
  segmentPatterns : ∀ text ∈ settings.segmentPatterns, ∃ pattern,
    Pattern.ofText? text = some pattern ∧ SegmentPattern.nameGroup ∈ pattern.groupNames

theorem Convention.exists_ofPattern_iff {text module : String} :
    (∃ convention, Convention.ofPattern text module = .ok convention) ↔
      ∃ pattern, Pattern.ofText? text = some pattern ∧ modelGroup ∈ pattern.groupNames := by
  simp only [ofPattern_eq_ok_iff]
  constructor
  · rintro ⟨-, pattern, hPattern, hGroup, -⟩
    exact ⟨pattern, hPattern, hGroup⟩
  · rintro ⟨pattern, hPattern, hGroup⟩
    exact ⟨_, pattern, hPattern, hGroup, rfl⟩

theorem SegmentPattern.exists_ofText_iff {text : String} :
    (∃ pattern, SegmentPattern.ofText text = .ok pattern) ↔
      ∃ pattern, Pattern.ofText? text = some pattern ∧ nameGroup ∈ pattern.groupNames := by
  unfold SegmentPattern.ofText
  cases Pattern.ofText? text with
  | none => simp
  | some pattern => by_cases hGroup : nameGroup ∈ pattern.groupNames <;> simp [hGroup]

/-- There is a resolver when the patterns of the fixed modules can be used. -/
theorem Resolver.exists_ofSettings_iff {settings : Settings} :
    (∃ resolver, Resolver.ofSettings settings = .ok resolver) ↔
      ∀ entry ∈ settings.fixedModules, ∃ pattern, Pattern.ofText? entry.pattern = some pattern ∧
        Convention.modelGroup ∈ pattern.groupNames := by
  have hConventions : (∃ resolver, Resolver.ofSettings settings = .ok resolver) ↔
      ∃ fixed, settings.fixedModules.mapM (fun entry =>
        Convention.ofPattern entry.pattern entry.module) = .ok fixed := by
    simp [Resolver.ofSettings, bind_eq_ok_iff, pure, Except.pure]
  rw [hConventions, exists_mapM_eq_ok_iff]
  simp only [Convention.exists_ofPattern_iff]

/-- Traits can be named when the patterns for segments can be used. -/
theorem TraitNames.exists_ofSettings_iff {settings : Settings} :
    (∃ names, TraitNames.ofSettings settings = .ok names) ↔
      ∀ text ∈ settings.segmentPatterns, ∃ pattern, Pattern.ofText? text = some pattern ∧
        SegmentPattern.nameGroup ∈ pattern.groupNames := by
  have hPatterns : (∃ names, TraitNames.ofSettings settings = .ok names) ↔
      ∃ patterns, settings.segmentPatterns.mapM SegmentPattern.ofText = .ok patterns := by
    simp [TraitNames.ofSettings, SegmentNames.ofSettings, bind_eq_ok_iff, pure, Except.pure]
  rw [hPatterns, exists_mapM_eq_ok_iff]
  simp only [SegmentPattern.exists_ofText_iff]

/-! ## The models -/

/-- The name that a reference ends in has one of the two shapes. -/
def Schema.HasShape (schema : Schema) : Prop :=
  (∃ parts, VersionedName.ofText? (Text.lastSegment schema.reference) = some parts) ∨
    ∃ parts, UnversionedName.ofText? (Text.lastSegment schema.reference) = some parts

/-- The match gives the schema a model, with a canonical type if the schema declares one. -/
structure SchemaMatch.Suits (found : SchemaMatch) (schema : Schema) : Prop where
  writable : found.Writable
  shape : schema.hasProperty Model.typeProperty = true → schema.HasShape

/-! ## Their canonical types -/

theorem Schema.exists_canonicalTypeOf_iff {schema : Schema} :
    (∃ type, canonicalTypeOf schema.reference = .ok type) ↔ schema.HasShape := by
  simp only [canonicalTypeOf, map_eq_ok_iff, Schema.HasShape, SchemaName.parse]
  cases VersionedName.ofText? (Text.lastSegment schema.reference) with
  | some parts => simp
  | none =>
      simp only [map_eq_ok_iff, UnversionedName.parse]
      cases UnversionedName.ofText? (Text.lastSegment schema.reference) <;> simp

namespace Model

/-- A model keeps its schema's promise of a canonical type when there is one. -/
theorem exists_withType_iff {schemas : Table String Schema} {model : Model} :
    (∃ typed, model.withType schemas = .ok typed) ↔ ∀ schema,
      schemas.find? model.schema = some schema → schema.hasProperty typeProperty = true →
        schema.HasShape := by
  unfold withType
  cases schemas.find? model.schema with
  | none => simp
  | some schema =>
      by_cases hTyped : schema.hasProperty typeProperty = true
      · simp [hTyped, map_eq_ok_iff, ← Schema.exists_canonicalTypeOf_iff]
      · simp [hTyped]

/-- Canonical types are found for all models when they are for each. -/
theorem withTypes_eq_ok_iff {schemas : Table String Schema} {models : List Model} :
    (withTypes schemas models).2 = .ok () ↔
      ∀ model ∈ models, ∃ typed, model.withType schemas = .ok typed := by
  induction models with
  | nil => simp [withTypes]
  | cons model rest ih =>
      rw [withTypes, List.forall_mem_cons, ← ih]
      cases model.withType schemas <;> simp

end Model

/-- Models and canonical types are found for a table of schemas when each match suits its
schema. -/
theorem exists_typed_models_iff {resolver : Resolver} {schemas : Table String Schema} :
    (∃ models skipped, modelsOf resolver schemas.entries = .ok (models, skipped) ∧
      (Model.withTypes schemas models).2 = .ok ()) ↔
    ∀ entry ∈ schemas.entries, ∀ found,
      resolver.resolveReference? entry.2.reference = some found → found.Suits entry.2 := by
  simp only [Model.withTypes_eq_ok_iff, Model.exists_withType_iff]
  constructor
  · rintro ⟨models, skipped, hModels, hTypes⟩ entry hEntry found hFound
    have hWritable := exists_modelsOf_iff.1 ⟨models, skipped, hModels⟩ entry hEntry found hFound
    refine ⟨hWritable, ?_⟩
    obtain ⟨model, hModel, hName⟩ :=
      (exists_mem_models_iff hModels entry.1).2 ⟨entry, hEntry, rfl, found, hFound⟩
    exact hTypes model hModel entry.2 (hName ▸ Table.find?_eq_some_iff.2 hEntry)
  · intro hAll
    obtain ⟨models, skipped, hModels⟩ := exists_modelsOf_iff.2
      fun entry hEntry found hFound => (hAll entry hEntry found hFound).writable
    refine ⟨models, skipped, hModels, fun model hModel schema hSchema => ?_⟩
    obtain ⟨entry, hEntry, hName, found, hFound⟩ :=
      (exists_mem_models_iff hModels model.schema).1 ⟨model, hModel, rfl⟩
    -- The model is looked up by the name of its schema, which no other schema has.
    have hSame : schemas.find? model.schema = some entry.2 :=
      Table.find?_eq_some_iff.2 (hName ▸ hEntry)
    obtain rfl : entry.2 = schema := Option.some.inj (hSame.symm.trans hSchema)
    exact (hAll entry hEntry found hFound).shape

/-! ## The traits -/

namespace ApiDocument

open EndpointGraph

variable {document : ApiDocument} {names : TraitNames} {registry : Registry}

/-- The error is about the last segment of one of the paths: it has no name, or its name
cannot be written, when all endpoints above it have theirs. -/
def OwnError (document : ApiDocument) (names : TraitNames) (error : PlanError) : Prop :=
  (∃ path ∈ document.paths.keys, names.names.name? (Endpoint.ownSegment path) = none ∧
    error = .unnamedSegment (Endpoint.ownSegment path) (Endpoint.trimSlash path)) ∨
  ∃ graph settled fault, build names.names document.paths = .ok graph ∧
    graph.normalize = (settled, .ok ()) ∧ error = .unwritable fault ∧ settled.OwnFault names fault

/-- Paths get traits when the last segment of each is accepted. -/
theorem exists_traits_iff :
    (∃ listed, (document.traits names registry).2 = .ok listed) ↔
      ∀ path ∈ document.paths.keys, names.Accepts (Endpoint.ownSegment path) := by
  rcases traits_cases document names registry with
    ⟨error, hBuild, hTraits⟩ | ⟨graph, settled, hBuild, -, hSame, hTraits⟩
  · refine iff_of_false (by simp [hTraits]) fun hAll => ?_
    have hNamed : ∀ path ∈ document.paths.keys, ∃ name,
        names.names.name? (Endpoint.ownSegment path) = some name := by
      intro path hPath
      obtain ⟨identifier, ⟨name, hName, -⟩, -⟩ := hAll path hPath
      exact ⟨name, hName⟩
    obtain ⟨graph, hGraph⟩ := exists_build_iff.2 hNamed
    rw [hBuild] at hGraph
    cases hGraph
  · rw [← forall_summary_iff hBuild, ← hSame]
    rcases hTraits with ⟨hEmpty, hTraits⟩ | ⟨root, hGraph, hTree, hRoot, hTraits⟩
    · simp [hTraits, hEmpty]
    · rw [hTraits]
      exact hTree.exists_project_iff hGraph hRoot

/-- An error is about the last segment of one path, and not about those above it. -/
theorem ownError_of_traits {error : PlanError}
    (h : (document.traits names registry).2 = .error error) : document.OwnError names error := by
  rcases traits_cases document names registry with
    ⟨fault, hBuild, hTraits⟩ | ⟨graph, settled, hBuild, hSettled, hSame, hTraits⟩
  · rw [hTraits] at h
    cases h
    exact .inl (build_eq_error hBuild)
  · rcases hTraits with ⟨-, hTraits⟩ | ⟨root, hGraph, hTree, hRoot, hTraits⟩
    · rw [hTraits] at h
      cases h
    · rw [hTraits] at h
      have hNamed : settled.Named names.names := by
        rw [Named, hSame]
        exact (build_eq_ok hBuild).1
      obtain ⟨fault, hError, hOwn⟩ := hTree.ownFault_of_project hGraph hRoot hNamed h
      exact .inr ⟨graph, settled, fault, hBuild, hSettled, hError, hOwn⟩

end ApiDocument

/-! ## The plan -/

namespace Plan

variable {document : ApiDocument} {settings : Settings}

/-- When the settings can be used, a plan needs the models, their types and the traits. -/
theorem exists_make_iff_steps {resolver : Resolver} {names : TraitNames}
    (hResolver : Resolver.ofSettings settings = .ok resolver)
    (hNames : TraitNames.ofSettings settings = .ok names) :
    (∃ plan, Plan.make document settings = .ok plan) ↔
      (∃ models skipped, modelsOf resolver
          (document.renameSchemas settings.schemaRenames).schemas.entries = .ok (models, skipped) ∧
        (Model.withTypes (document.renameSchemas settings.schemaRenames).schemas models).2 =
          .ok ()) ∧
      ∀ path ∈ document.paths.keys, names.Accepts (Endpoint.ownSegment path) := by
  have hSamePaths : (document.renameSchemas settings.schemaRenames).paths = document.paths := rfl
  constructor
  · rintro ⟨plan, hPlan⟩
    obtain ⟨otherResolver, otherNames, found, registry, hOtherResolver, hOtherNames, hFound,
      hTyped, hTraits, -⟩ := make_eq_ok hPlan
    obtain rfl : resolver = otherResolver := Except.ok.inj (hResolver.symm.trans hOtherResolver)
    obtain rfl : names = otherNames := Except.ok.inj (hNames.symm.trans hOtherNames)
    refine ⟨⟨found, plan.skipped, mapError_eq_ok_iff.1 hFound, congrArg Prod.snd hTyped⟩, ?_⟩
    rw [← hSamePaths]
    exact ApiDocument.exists_traits_iff.1 ⟨plan.traits, congrArg Prod.snd hTraits⟩
  · rintro ⟨⟨models, skipped, hModels, hTypes⟩, hPaths⟩
    rw [← hSamePaths] at hPaths
    obtain ⟨typed, hTyped⟩ : ∃ typed, Model.withTypes
        (document.renameSchemas settings.schemaRenames).schemas models = (typed, .ok ()) :=
      ⟨_, Prod.ext rfl hTypes⟩
    obtain ⟨listed, hListed⟩ := ApiDocument.exists_traits_iff.2 hPaths
    obtain ⟨next, hTraits⟩ : ∃ next, (document.renameSchemas settings.schemaRenames).traits names
        (typed.foldl (fun registry model => registry.register model.modulePath) .empty) =
          (next, .ok listed) := ⟨_, Prod.ext rfl hListed⟩
    have hFound : (document.renameSchemas settings.schemaRenames).models resolver =
        .ok (models, skipped) := mapError_eq_ok_iff.2 hModels
    refine ⟨⟨typed, listed, settings.topDeclarations.foldl Registry.declare next, skipped⟩, ?_⟩
    simp only [Plan.make, hResolver, hNames, hFound, hTyped, hTraits, Except.mapError, bind,
      Except.bind]

/-- What a plan may fail for: the settings, a name that cannot be written, a name without the
shape of a canonical type, or the traits. -/
theorem make_eq_error {error : PlanError} (h : Plan.make document settings = .error error) :
    (∃ fault, error = .settings fault) ∨
    (∃ resolver fault, Resolver.ofSettings settings = .ok resolver ∧
      modelsOf resolver (document.renameSchemas settings.schemaRenames).schemas.entries =
        .error fault ∧ error = .unwritable fault) ∨
    (∃ fault, error = .misshapen fault) ∨
    ∃ names registry, TraitNames.ofSettings settings = .ok names ∧
      ((document.renameSchemas settings.schemaRenames).traits names registry).2 =
        .error error := by
  rcases bind_eq_error_iff.1 h with hSettings | ⟨resolver, hResolver, h⟩
  · obtain ⟨fault, -, rfl⟩ := mapError_eq_error_iff.1 hSettings
    exact .inl ⟨fault, rfl⟩
  rcases bind_eq_error_iff.1 h with hSettings | ⟨names, hNames, h⟩
  · obtain ⟨fault, -, rfl⟩ := mapError_eq_error_iff.1 hSettings
    exact .inl ⟨fault, rfl⟩
  rcases bind_eq_error_iff.1 h with hModels | ⟨⟨models, skipped⟩, -, h⟩
  · obtain ⟨fault, hFault, rfl⟩ := mapError_eq_error_iff.1 hModels
    exact .inr (.inl ⟨resolver, fault, mapError_eq_ok_iff.1 hResolver, hFault, rfl⟩)
  rcases bind_eq_error_iff.1 h with hTyped | ⟨⟨⟩, -, h⟩
  · obtain ⟨fault, -, rfl⟩ := mapError_eq_error_iff.1 hTyped
    exact .inr (.inr (.inl ⟨fault, rfl⟩))
  simp only at h
  split at h
  case h_1 registry failed hTraits =>
      cases h
      exact .inr (.inr (.inr ⟨names, _, mapError_eq_ok_iff.1 hNames, congrArg Prod.snd hTraits⟩))
  case h_2 => cases h

/-- The steps before the traits have errors of other kinds. -/
theorem make_ne_tree (document : ApiDocument) (settings : Settings) (fault : TreeFault) :
    Plan.make document settings ≠ .error (.tree fault) := by
  intro h
  rcases make_eq_error h with ⟨_, hOther⟩ | ⟨_, _, -, -, hOther⟩ | ⟨_, hOther⟩ | hTraits
  · cases hOther
  · cases hOther
  · cases hOther
  · obtain ⟨names, registry, -, hTraits⟩ := hTraits
    exact ApiDocument.traits_ne_tree _ _ _ _ hTraits

/-- There is a plan exactly when the settings can be used, each schema that is resolved has
a match that suits it, and the last segment of each path is accepted. No error is about the
tree of endpoints, and none about a segment above the endpoint that is looked at. -/
theorem make_succeeds_iff (document : ApiDocument) (settings : Settings) :
    ((∃ plan, Plan.make document settings = .ok plan) ↔
      settings.Usable ∧
      (∀ resolver, Resolver.ofSettings settings = .ok resolver →
        ∀ entry ∈ (document.renameSchemas settings.schemaRenames).schemas.entries, ∀ found,
          resolver.resolveReference? entry.2.reference = some found → found.Suits entry.2) ∧
      ∀ names, TraitNames.ofSettings settings = .ok names →
        ∀ path ∈ document.paths.keys, names.Accepts (Endpoint.ownSegment path)) ∧
    (∀ fault, Plan.make document settings ≠ .error (.tree fault)) ∧
    ∀ names registry error, (document.traits names registry).2 = .error error →
      document.OwnError names error := by
  refine ⟨?_, make_ne_tree document settings, fun _ _ _ => ApiDocument.ownError_of_traits⟩
  constructor
  · rintro ⟨plan, hPlan⟩
    obtain ⟨resolver, names, -, -, hResolver, hNames, -⟩ := make_eq_ok hPlan
    have hSteps := (exists_make_iff_steps hResolver hNames).1 ⟨plan, hPlan⟩
    have hUsable : settings.Usable :=
      { fixedModules := Resolver.exists_ofSettings_iff.1 ⟨resolver, hResolver⟩
        segmentPatterns := TraitNames.exists_ofSettings_iff.1 ⟨names, hNames⟩ }
    refine ⟨hUsable, fun other hOther => ?_, fun other hOther => ?_⟩
    · obtain rfl : resolver = other := Except.ok.inj (hResolver.symm.trans hOther)
      exact exists_typed_models_iff.1 hSteps.1
    · obtain rfl : names = other := Except.ok.inj (hNames.symm.trans hOther)
      exact hSteps.2
  · rintro ⟨hUsable, hSchemas, hPaths⟩
    obtain ⟨resolver, hResolver⟩ := Resolver.exists_ofSettings_iff.2 hUsable.fixedModules
    obtain ⟨names, hNames⟩ := TraitNames.exists_ofSettings_iff.2 hUsable.segmentPatterns
    exact (exists_make_iff_steps hResolver hNames).2
      ⟨exists_typed_models_iff.2 (hSchemas resolver hResolver), hPaths names hNames⟩

end Plan

end CratePlan
