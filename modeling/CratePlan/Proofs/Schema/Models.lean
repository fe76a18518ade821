import CratePlan.Model
import CratePlan.Proofs.ModuleName
import CratePlan.Proofs.Schema.Placement

/-!
# What models are made of

A schema becomes a model by way of a match, and the match says everything about where the
model lies: its type, and the module that defines it. The canonical types are filled in
afterwards and change none of this.

Nothing is said here about which words the parts of a match have. They are identifiers that
were read from labels, whatever convention has recognised the schema.

## Main statements

* `Model.ofMatch_eq_ok_iff`: what is made of a match.
* `exists_modelsOf_iff`, `mem_modelsOf_iff`: when there are models of a row of schemas, and
  which.
* `modelsOf_eq_filterMap`, `Model.withTypes_eq_filterMap`: each schema has its model by itself.
* `schemas_of_modelsOf`: the schemas that become models, and those that are skipped.
* `Model.map_untyped_withTypes`: canonical types change nothing else about them.
* `Resolver.made_of_resolve?`: the parts of a match are identifiers.
-/

namespace CratePlan

open Outcome

/-! ## The parts of a match -/

/-- The modules of a match and its model are identifiers. -/
structure SchemaMatch.Made (found : SchemaMatch) : Prop where
  modules : ∀ component ∈ found.module, component.Made
  model : found.model.Made

theorem Convention.ofPattern_eq_ok_iff {text module : String} {convention : Convention} :
    Convention.ofPattern text module = .ok convention ↔
      ∃ pattern, Pattern.ofText? text = some pattern ∧ modelGroup ∈ pattern.groupNames ∧
        convention = .fixed pattern (.ofLabel module) := by
  unfold Convention.ofPattern
  cases Pattern.ofText? text with
  | none => simp
  | some pattern => by_cases hGroup : modelGroup ∈ pattern.groupNames <;> simp [hGroup, eq_comm]

namespace Resolver

variable {settings : Settings} {resolver : Resolver}

/-- A resolver asks for the two shapes of names, and for the patterns of the settings. -/
theorem conventions_cases (h : Resolver.ofSettings settings = .ok resolver)
    {convention : Convention} (hMem : convention ∈ resolver.conventions) :
    convention = .versioned ∨ convention = .unversioned ∨ ∃ entry ∈ settings.fixedModules,
      ∃ pattern, Pattern.ofText? entry.pattern = some pattern ∧
        convention = .fixed pattern (.ofLabel entry.module) := by
  obtain ⟨fixed, hFixed, hResolver⟩ := bind_eq_ok_iff.1 h
  cases hResolver
  rw [mapM_eq_ok_iff] at hFixed
  rw [List.cons_append, List.mem_cons, List.mem_append, List.mem_singleton] at hMem
  rcases hMem with hVersioned | hListed | hUnversioned
  · exact .inl hVersioned
  · obtain ⟨entry, hPair, hEntry⟩ := exists_left_of_forall₂ hFixed hListed
    obtain ⟨pattern, hPattern, -, hConvention⟩ := Convention.ofPattern_eq_ok_iff.1 hEntry
    exact .inr (.inr ⟨entry, (List.of_mem_zip hPair).1, pattern, hPattern, hConvention⟩)
  · exact .inr (.inl hUnversioned)

/-- The parts of a match are read from labels. -/
theorem made_of_resolve? (hResolver : Resolver.ofSettings settings = .ok resolver) {name : String}
    {found : SchemaMatch} (h : resolver.resolve? name = some found) : found.Made := by
  obtain ⟨convention, hMem, hMatch⟩ := List.exists_of_findSome?_eq_some h
  rcases conventions_cases hResolver hMem with rfl | rfl | ⟨entry, -, pattern, -, rfl⟩
  · obtain ⟨parts, -, rfl⟩ := Option.map_eq_some_iff.1 hMatch
    have hVersion : ∀ component ∈ [Identifier.ofLabel parts.version], component.Made :=
      List.forall_mem_singleton.2 (.ofLabel _)
    have hModules : ∀ component ∈ parts.modulePath, component.Made :=
      List.forall_mem_cons.2 ⟨.ofLabel _, hVersion⟩
    exact ⟨hModules, .ofLabel _⟩
  · obtain ⟨parts, -, rfl⟩ := Option.map_eq_some_iff.1 hMatch
    exact ⟨List.forall_mem_singleton.2 (.ofLabel _), .ofLabel _⟩
  · obtain ⟨model, -, rfl⟩ := Option.map_eq_some_iff.1 hMatch
    exact ⟨List.forall_mem_singleton.2 (.ofLabel _), .ofLabel _⟩

end Resolver

/-! ## The model of a match -/

/-- The model has the type of a match and lies where that is placed. -/
structure Model.MadeOf (model : Model) (resolver : Resolver) (found : SchemaMatch) : Prop where
  writable : found.Writable
  type : model.type =
    ⟨resolver.parentPath found, String.ofList (found.model.words.spelled .pascal)⟩
  modulePath : model.modulePath = (resolver.parentPath found).append found.model.words

/-- What is made of a match, when its names can be written. -/
theorem Model.ofMatch_eq_ok_iff {resolver : Resolver} {name : String} {found : SchemaMatch}
    {model : Model} :
    Model.ofMatch resolver name found = .ok model ↔
      model.schema = name ∧ model.odataType = none ∧ model.MadeOf resolver found := by
  simp only [Model.ofMatch, bind_eq_ok_iff, Resolver.typePath_eq_ok_iff,
    Resolver.modulePath_eq_ok_iff]
  constructor
  · rintro ⟨type, ⟨hWritable, hType⟩, path, ⟨-, hPath⟩, hModel⟩
    cases hModel
    exact ⟨rfl, rfl, hWritable, hType, hPath⟩
  · rintro ⟨hName, hNone, hWritable, hType, hPath⟩
    refine ⟨_, ⟨hWritable, rfl⟩, _, ⟨hWritable, rfl⟩, ?_⟩
    obtain ⟨schema, type, path, odataType⟩ := model
    cases hName
    cases hNone
    cases hType
    cases hPath
    rfl

/-- A match makes a model when its names can be written. -/
theorem Model.exists_ofMatch_iff {resolver : Resolver} {name : String} {found : SchemaMatch} :
    (∃ model, Model.ofMatch resolver name found = .ok model) ↔ found.Writable := by
  simp only [Model.ofMatch_eq_ok_iff]
  constructor
  · rintro ⟨model, -, -, hMade⟩
    exact hMade.writable
  · intro hWritable
    exact ⟨⟨name, _, _, none⟩, rfl, rfl, hWritable, rfl, rfl⟩

/-- Schemas become models when each match can be written. -/
theorem exists_modelsOf_iff {resolver : Resolver} {entries : List (String × Schema)} :
    (∃ models skipped, modelsOf resolver entries = .ok (models, skipped)) ↔
      ∀ entry ∈ entries, ∀ found,
        resolver.resolveReference? entry.2.reference = some found → found.Writable := by
  induction entries with
  | nil => exact iff_of_true ⟨[], [], rfl⟩ (by simp)
  | cons entry rest ih =>
      rw [modelsOf, List.forall_mem_cons, ← ih]
      cases hFound : resolver.resolveReference? entry.2.reference with
      | none => simp [bind_eq_ok_iff, pure, Except.pure]
      | some found =>
          have hMatch : (∃ model, Model.ofMatch resolver entry.1 found = .ok model) ↔
              found.Writable := Model.exists_ofMatch_iff
          simp only [Option.some.injEq, forall_eq', bind_eq_ok_iff, ← hMatch]
          constructor
          · rintro ⟨models, skipped, model, hModel, ⟨others, names⟩, hRest, -⟩
            exact ⟨⟨model, hModel⟩, others, names, hRest⟩
          · rintro ⟨⟨model, hModel⟩, others, names, hRest⟩
            exact ⟨_, _, model, hModel, _, hRest, rfl⟩

/-! ## Each schema by itself -/

/-- The model of one schema, if it has one. -/
def modelOf? (resolver : Resolver) (entry : String × Schema) : Option Model :=
  (resolver.resolveReference? entry.2.reference).bind fun found =>
    (Model.ofMatch resolver entry.1 found).toOption

/-- The name of one schema, if it is skipped. -/
def skippedName? (resolver : Resolver) (entry : String × Schema) : Option String :=
  if (resolver.resolveReference? entry.2.reference).isNone then some entry.1 else none

/-- The models of a row of schemas are those of each, and so are the names that are skipped. -/
theorem modelsOf_eq_filterMap {resolver : Resolver} {entries : List (String × Schema)} :
    ∀ {models : List Model} {skipped : List String},
      modelsOf resolver entries = .ok (models, skipped) →
        models = entries.filterMap (modelOf? resolver) ∧
          skipped = entries.filterMap (skippedName? resolver) := by
  induction entries with
  | nil =>
      intro models skipped h
      cases h
      exact ⟨rfl, rfl⟩
  | cons entry rest ih =>
      intro models skipped h
      rw [modelsOf] at h
      rw [List.filterMap_cons, List.filterMap_cons, modelOf?, skippedName?]
      cases hFound : resolver.resolveReference? entry.2.reference with
      | none =>
          rw [hFound] at h
          obtain ⟨⟨others, names⟩, hRest, hPure⟩ := bind_eq_ok_iff.1 h
          cases hPure
          obtain ⟨rfl, rfl⟩ := ih hRest
          exact ⟨rfl, rfl⟩
      | some found =>
          rw [hFound] at h
          obtain ⟨first, hFirst, hNext⟩ := bind_eq_ok_iff.1 h
          obtain ⟨⟨others, names⟩, hRest, hPure⟩ := bind_eq_ok_iff.1 hNext
          cases hPure
          obtain ⟨rfl, rfl⟩ := ih hRest
          rw [Option.bind_some, hFirst]
          exact ⟨rfl, rfl⟩

theorem modelOf?_eq_some_iff {resolver : Resolver} {entry : String × Schema} {model : Model} :
    modelOf? resolver entry = some model ↔ ∃ found,
      resolver.resolveReference? entry.2.reference = some found ∧
        Model.ofMatch resolver entry.1 found = .ok model := by
  rw [modelOf?, Option.bind_eq_some_iff]
  simp only [toOption_eq_some_iff]

/-- The models of a row of schemas are what is made of their matches. -/
theorem mem_modelsOf_iff {resolver : Resolver} {entries : List (String × Schema)}
    {models : List Model} {skipped : List String}
    (h : modelsOf resolver entries = .ok (models, skipped)) (model : Model) :
    model ∈ models ↔ ∃ entry ∈ entries, ∃ found,
      resolver.resolveReference? entry.2.reference = some found ∧
        Model.ofMatch resolver entry.1 found = .ok model := by
  obtain ⟨rfl, -⟩ := modelsOf_eq_filterMap h
  rw [List.mem_filterMap]
  simp only [modelOf?_eq_some_iff]

/-- Each schema that is resolved has a model. -/
theorem exists_mem_modelsOf {resolver : Resolver} {entries : List (String × Schema)}
    {models : List Model} {skipped : List String}
    (h : modelsOf resolver entries = .ok (models, skipped)) {entry : String × Schema}
    (hEntry : entry ∈ entries) {found : SchemaMatch}
    (hFound : resolver.resolveReference? entry.2.reference = some found) :
    ∃ model ∈ models, Model.ofMatch resolver entry.1 found = .ok model := by
  have hWritable := exists_modelsOf_iff.1 ⟨models, skipped, h⟩ entry hEntry found hFound
  obtain ⟨model, hModel⟩ := Model.exists_ofMatch_iff.2 hWritable
  exact ⟨model, (mem_modelsOf_iff h model).2 ⟨entry, hEntry, found, hFound, hModel⟩, hModel⟩

/-- The models are those of the schemas that are resolved. -/
theorem exists_mem_models_iff {resolver : Resolver} {entries : List (String × Schema)}
    {models : List Model} {skipped : List String}
    (h : modelsOf resolver entries = .ok (models, skipped)) (name : String) :
    (∃ model ∈ models, model.schema = name) ↔ ∃ entry ∈ entries, entry.1 = name ∧
      ∃ found, resolver.resolveReference? entry.2.reference = some found := by
  constructor
  · rintro ⟨model, hModel, rfl⟩
    obtain ⟨entry, hEntry, found, hFound, hMade⟩ := (mem_modelsOf_iff h model).1 hModel
    exact ⟨entry, hEntry, (Model.ofMatch_eq_ok_iff.1 hMade).1.symm, found, hFound⟩
  · rintro ⟨entry, hEntry, rfl, found, hFound⟩
    obtain ⟨model, hModel, hMade⟩ := exists_mem_modelsOf h hEntry hFound
    exact ⟨model, hModel, (Model.ofMatch_eq_ok_iff.1 hMade).1⟩

/-- A convention recognises the schema of an entry. -/
def Resolver.recognises (resolver : Resolver) (entry : String × Schema) : Bool :=
  (resolver.resolveReference? entry.2.reference).isSome

/-- A row of schemas is parted into those that become models and those that are skipped, and
either part is listed in the order of the row. -/
theorem schemas_of_modelsOf {resolver : Resolver} {entries : List (String × Schema)}
    {models : List Model} {skipped : List String}
    (h : modelsOf resolver entries = .ok (models, skipped)) :
    models.map Model.schema = (entries.filter resolver.recognises).map Prod.fst ∧
      skipped = (entries.filter fun entry => !resolver.recognises entry).map Prod.fst := by
  have hPart : ∀ part : String × Schema → Bool, (entries.filter part).map Prod.fst =
      entries.filterMap fun entry => if part entry then some entry.1 else none := by
    intro part
    rw [← List.filterMap_eq_map, List.filterMap_filter]
    rfl
  obtain ⟨rfl, rfl⟩ := modelsOf_eq_filterMap h
  rw [hPart, hPart, List.map_filterMap]
  constructor
  · refine List.filterMap_congr fun entry hEntry => ?_
    cases hFound : resolver.resolveReference? entry.2.reference with
    | none => simp [modelOf?, Resolver.recognises, hFound]
    | some found =>
        obtain ⟨model, -, hModel⟩ := exists_mem_modelsOf h hEntry hFound
        have hName : model.schema = entry.1 := (Model.ofMatch_eq_ok_iff.1 hModel).1
        simp [modelOf?, Resolver.recognises, hFound, hModel, hName, Except.toOption]
  · refine List.filterMap_congr fun entry _ => ?_
    cases hFound : resolver.resolveReference? entry.2.reference <;>
      simp [skippedName?, Resolver.recognises, hFound]

/-! ## Canonical types -/

namespace Model

/-- A model without its canonical type. -/
def untyped (model : Model) : Model :=
  { model with odataType := none }

@[simp] theorem type_untyped (model : Model) : model.untyped.type = model.type := rfl

@[simp] theorem modulePath_untyped (model : Model) :
    model.untyped.modulePath = model.modulePath := rfl

/-- Models that differ in their canonical types are made of the same matches. -/
theorem MadeOf.of_untyped_eq {resolver : Resolver} {found : SchemaMatch} {model other : Model}
    (h : model.MadeOf resolver found) (hSame : other.untyped = model.untyped) :
    other.MadeOf resolver found := by
  have hType : other.type = model.type := by simpa using congrArg Model.type hSame
  have hPath : other.modulePath = model.modulePath := by
    simpa using congrArg Model.modulePath hSame
  exact ⟨h.writable, hType.trans h.type, hPath.trans h.modulePath⟩

theorem untyped_of_withType {schemas : Table String Schema} {model typed : Model}
    (h : model.withType schemas = .ok typed) : typed.untyped = model.untyped := by
  unfold withType at h
  split at h
  case h_1 =>
      cases h
      rfl
  case h_2 =>
      split at h
      case isTrue =>
          obtain ⟨type, -, rfl⟩ := map_eq_ok_iff.1 h
          rfl
      case isFalse =>
          cases h
          rfl

/-- Canonical types change nothing else about models. -/
theorem map_untyped_withTypes (schemas : Table String Schema) (models : List Model) :
    (withTypes schemas models).1.map untyped = models.map untyped := by
  induction models with
  | nil => rfl
  | cons model rest ih =>
      rw [withTypes]
      split
      case h_1 => rfl
      case h_2 typed hTyped => simp only [List.map_cons, untyped_of_withType hTyped, ih]

/-- Each model gets its canonical type by itself. -/
theorem withTypes_eq_filterMap {schemas : Table String Schema} {models : List Model} :
    ∀ {typed : List Model}, withTypes schemas models = (typed, .ok ()) →
      typed = models.filterMap fun model => (model.withType schemas).toOption := by
  induction models with
  | nil =>
      intro typed h
      cases h
      rfl
  | cons model rest ih =>
      intro typed h
      rw [withTypes] at h
      rw [List.filterMap_cons]
      cases hTyped : model.withType schemas with
      | error fault =>
          rw [hTyped] at h
          cases h
      | ok first =>
          rw [hTyped] at h
          rcases hRest : withTypes schemas rest with ⟨others, outcome⟩
          rw [hRest] at h
          cases h
          rw [ih hRest]
          rfl

/-- A model that had no canonical type gets one if its schema declares that, and then it is the one
that the reference of the schema spells. -/
theorem odataType_of_withType {schemas : Table String Schema} {model typed : Model}
    {schema : Schema} (hSchema : schemas.find? model.schema = some schema)
    (hNone : model.odataType = none) (h : model.withType schemas = .ok typed) :
    (typed.odataType.isSome = true ↔ schema.hasProperty typeProperty = true) ∧
      ∀ type, typed.odataType = some type → canonicalTypeOf schema.reference = .ok type := by
  simp only [withType, hSchema] at h
  by_cases hDeclares : schema.hasProperty typeProperty = true
  · rw [if_pos hDeclares] at h
    obtain ⟨type, hType, rfl⟩ := map_eq_ok_iff.1 h
    refine ⟨iff_of_true rfl hDeclares, ?_⟩
    intro other hOther
    rw [hType, Option.some.inj hOther]
  · rw [if_neg hDeclares] at h
    cases h
    refine ⟨iff_of_false (by simp [hNone]) hDeclares, ?_⟩
    intro type hType
    rw [hNone] at hType
    cases hType

end Model

end CratePlan
