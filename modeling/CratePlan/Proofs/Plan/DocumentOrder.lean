import CratePlan.Proofs.Endpoint.PathOrder
import CratePlan.Proofs.Plan.Success
import CratePlan.Proofs.Plan.Visibility
import CratePlan.Proofs.Renaming
import CratePlan.Proofs.Submodules

/-!
# The order of a document

A document lists its paths and its schemas in some order. The paths are sorted first, so that
their order is lost. The schemas are taken as they come: the models of a plan and the names
that it skips are in their order, and so are the modules as they are opened. What a module
writes down is sorted and does not show it.

Renames look schemas up by name, and a schema that is renamed takes its place at the end, or
that of a schema it replaces. So they may change the order, but two tables with the same
entries have the same entries afterwards. A name that is declared twice keeps what it was
declared as first. This would show the order if two declarations were at odds, and in the
modules of a plan no two are.

## Main statements

* `ApiDocument.traits_eq_of_perm`: the order of paths makes no difference to traits.
* `Plan.shown?_eq_some_iff`: what a plan shows, without an order.
* `Plan.make_of_perm`: the plans of documents that list the same schemas.
-/

namespace CratePlan

open Outcome

/-! ## Documents with the same paths -/

namespace ApiDocument

/-- The order in which a document lists its paths makes no difference to its traits, or to
where they are declared. -/
theorem traits_eq_of_perm {document other : ApiDocument}
    (h : document.paths.entries.Perm other.paths.entries) (names : TraitNames)
    (registry : Registry) : document.traits names registry = other.traits names registry := by
  have hBuild : EndpointGraph.build names.names document.paths =
      EndpointGraph.build names.names other.paths := by
    rw [EndpointGraph.build, EndpointGraph.build, EndpointGraph.sortPaths_eq_of_perm h]
  rw [traits, traits, hBuild]

/-- A document that lists one endpoint twice, and another one that begins with no other. -/
def slashed : ApiDocument :=
  ⟨Table.empty, Table.ofList [("/a/", .null), ("/b", .null), ("/a", .bool true)]⟩

/-- The same document, the other way round. -/
def slashedBack : ApiDocument :=
  ⟨Table.empty, Table.ofList [("/a", .bool true), ("/b", .null), ("/a/", .null)]⟩

/-- Names for traits at segments of small letters. -/
def letterTraits : TraitNames := ⟨.ofLabel "api", .smallLetters, Table.empty⟩

/-- Both have the same two traits, and of the endpoint that is listed twice they keep what
is listed without a slash. -/
theorem slashed_traits_eq_back :
    slashed.paths.keys ≠ slashedBack.paths.keys ∧
      slashed.paths.entries.Perm slashedBack.paths.entries ∧
      slashed.traits letterTraits .empty = slashedBack.traits letterTraits .empty ∧
      (slashed.traits letterTraits .empty).2.map
        (List.map fun trait => (trait.endpoint, trait.payload)) =
          .ok [("/a", .bool true), ("/b", .null)] := by
  have hPerm : slashed.paths.entries.Perm slashedBack.paths.entries :=
    List.reverse_perm slashedBack.paths.entries
  exact ⟨by decide, hPerm, traits_eq_of_perm hPerm letterTraits .empty, by cbv⟩

end ApiDocument

namespace EndpointGraph

variable {graph : EndpointGraph} {traits : TraitNames}

/-- Which traits are made does not depend on where they are declared. -/
theorem layOut_snd (nodes : List Nat) :
    ∀ (done : List (Nat × Trait)) (registry other : Registry),
      (graph.layOut traits nodes done registry).2 = (graph.layOut traits nodes done other).2 := by
  induction nodes with
  | nil => intros; rfl
  | cons node rest ih =>
      intro done registry other
      rw [layOut, layOut]
      cases graph.traitAt traits node with
      | error error => rfl
      | ok trait => exact ih _ _ _

theorem project_snd (registry other : Registry) :
    (graph.project traits registry).2 = (graph.project traits other).2 := by
  unfold project
  cases graph.root with
  | none => rfl
  | some root =>
      have hMade : (graph.layOut traits (graph.breadthFirst root) [] registry).2 =
          (graph.layOut traits (graph.breadthFirst root) [] other).2 := layOut_snd _ _ _ _
      rcases hFirst : graph.layOut traits (graph.breadthFirst root) [] registry with ⟨first, made⟩
      rcases hSecond : graph.layOut traits (graph.breadthFirst root) [] other with ⟨second, again⟩
      rw [hFirst, hSecond] at hMade
      obtain rfl : made = again := hMade
      simp only [hFirst, hSecond]
      cases made <;> rfl

end EndpointGraph

namespace ApiDocument

/-- Documents with the same paths have the same traits. -/
theorem traits_snd_eq {document other : ApiDocument} (h : document.paths = other.paths)
    (names : TraitNames) (registry next : Registry) :
    (document.traits names registry).2 = (other.traits names next).2 := by
  unfold traits
  rw [h]
  cases EndpointGraph.build names.names other.paths with
  | error error => rfl
  | ok graph =>
      rcases hNormalize : graph.normalize with ⟨settled, _ | _⟩
      · simp only [hNormalize]
      · simp only [hNormalize]
        exact settled.project_snd registry next

end ApiDocument

/-! ## Documents with the same schemas -/

namespace Model

/-- The canonical type of a model is that of its schema, wherever it stands. -/
theorem withType_eq_of_perm {schemas others : Table String Schema}
    (h : schemas.entries.Perm others.entries) (model : Model) :
    model.withType schemas = model.withType others := by
  rw [withType, withType, Table.perm_entries_iff.1 h model.schema]

end Model

/-! ## Modules that declare the same -/

namespace Registry

variable {registry other : Registry}

/-- A module that declares something is known by what it shows. -/
theorem Occupied.exists_find?_iff (h : registry.Occupied) {key : String} :
    (∃ module, registry.find? key = some module) ↔
      ∃ name visibility, registry.shown? key name = some visibility := by
  constructor
  · rintro ⟨module, hModule⟩
    obtain ⟨name, hName⟩ := h key module hModule
    cases hShown : module.declared.find? name with
    | none =>
        have hUnknown := Table.find?_eq_none_iff.1 hShown
        exact absurd hName (by simpa [Module.declares, Table.contains] using hUnknown)
    | some visibility => exact ⟨name, visibility, by rw [shown?, hModule, Option.bind_some, hShown]⟩
  · rintro ⟨name, visibility, hShown⟩
    obtain ⟨module, hModule, -⟩ := Option.bind_eq_some_iff.1 hShown
    exact ⟨module, hModule⟩

/-- Registries that show the same have the same modules with the same submodules. -/
theorem Occupied.submodules_eq (h : registry.Occupied) (hOther : other.Occupied)
    (hShown : ∀ key name, registry.shown? key name = other.shown? key name) (key : String) :
    (registry.find? key).map Module.submodules = (other.find? key).map Module.submodules := by
  have hKeys : (∃ module, registry.find? key = some module) ↔
      ∃ module, other.find? key = some module := by
    simp only [h.exists_find?_iff, hOther.exists_find?_iff, hShown key]
  cases hModule : registry.find? key with
  | none =>
      cases hSame : other.find? key with
      | none => rfl
      | some module =>
          obtain ⟨found, hFound⟩ := hKeys.2 ⟨module, hSame⟩
          rw [hModule] at hFound
          cases hFound
  | some module =>
      obtain ⟨found, hFound⟩ := hKeys.1 ⟨module, hModule⟩
      rw [hFound, Option.map_some, Option.map_some, Option.some.injEq]
      refine Module.submodules_eq fun name => ?_
      have hName := hShown key name
      rwa [shown?, shown?, hModule, hFound] at hName

end Registry

/-! ## Plans -/

namespace Plan

variable {document other : ApiDocument} {settings : Settings} {plan next : Plan}

/-- A plan shows what it asks for, and nothing else. -/
theorem shown?_eq_some_iff (hPlan : Plan.make document settings = .ok plan)
    (hSettings : settings.Separate) {key : String} {name : Words} {visibility : Visibility} :
    plan.modules.shown? key name = some visibility ↔ ∃ declaration,
      plan.AsksFor settings declaration ∧ declaration.Concerns key name ∧
        declaration.visibility = visibility := by
  refine ⟨exists_asksFor_of_shown? hPlan, ?_⟩
  rintro ⟨declaration, hAsks, ⟨rfl, rfl⟩, rfl⟩
  exact Registry.shows_iff.1 (shows_of_asksFor hPlan hSettings hAsks)

/-- What a plan asks for does not depend on the order of its models. -/
theorem asksFor_iff_of_perm (hModels : plan.models.Perm next.models)
    (hTraits : plan.traits = next.traits) {declaration : Declaration} :
    plan.AsksFor settings declaration ↔ next.AsksFor settings declaration := by
  simp only [AsksFor, hModels.mem_iff, hTraits]

/-- Plans that ask for the same declare the same. -/
theorem submodules_eq_of_perm (hPlan : Plan.make document settings = .ok plan)
    (hNext : Plan.make other settings = .ok next) (hSettings : settings.Separate)
    (hModels : plan.models.Perm next.models) (hTraits : plan.traits = next.traits) (key : String) :
    (plan.modules.find? key).map Module.submodules =
      (next.modules.find? key).map Module.submodules := by
  refine (occupied_modules hPlan).submodules_eq (occupied_modules hNext) (fun key name => ?_) key
  refine Option.ext fun visibility => ?_
  simp only [shown?_eq_some_iff hPlan hSettings, shown?_eq_some_iff hNext hSettings,
    asksFor_iff_of_perm hModels hTraits]

section SameSchemas

variable (hSchemas : document.schemas.entries.Perm other.schemas.entries)
  (hPaths : document.paths = other.paths)
include hSchemas hPaths

/-- A document has a plan if one that lists the same schemas has one. -/
theorem exists_make_of_perm (hPlan : Plan.make document settings = .ok plan) :
    ∃ next, Plan.make other settings = .ok next := by
  obtain ⟨resolver, names, -, -, hResolver, hNames, -⟩ := make_eq_ok hPlan
  have hRenamed := ApiDocument.perm_renameSchemas hSchemas settings.schemaRenames
  obtain ⟨hModels, hAccepts⟩ := (exists_make_iff_steps hResolver hNames).1 ⟨plan, hPlan⟩
  refine (exists_make_iff_steps hResolver hNames).2 ⟨exists_typed_models_iff.2 ?_, hPaths ▸ hAccepts⟩
  intro entry hEntry
  exact exists_typed_models_iff.1 hModels entry (hRenamed.mem_iff.2 hEntry)

/-- The plans of documents that list the same schemas have the same models and traits. -/
theorem parts_of_perm (hPlan : Plan.make document settings = .ok plan)
    (hNext : Plan.make other settings = .ok next) :
    plan.models.Perm next.models ∧ plan.skipped.Perm next.skipped ∧ plan.traits = next.traits := by
  obtain ⟨resolver, names, found, registry, hResolver, hNames, hFound, hTyped, hTraits, -⟩ :=
    make_eq_ok hPlan
  obtain ⟨nextResolver, nextNames, nextFound, nextRegistry, hNextResolver, hNextNames, hNextFound,
    hNextTyped, hNextTraits, -⟩ := make_eq_ok hNext
  obtain rfl : resolver = nextResolver := Except.ok.inj (hResolver.symm.trans hNextResolver)
  obtain rfl : names = nextNames := Except.ok.inj (hNames.symm.trans hNextNames)
  have hRenamed := ApiDocument.perm_renameSchemas hSchemas settings.schemaRenames
  obtain ⟨rfl, hSkipped⟩ := modelsOf_eq_filterMap (mapError_eq_ok_iff.1 hFound)
  obtain ⟨rfl, hNextSkipped⟩ := modelsOf_eq_filterMap (mapError_eq_ok_iff.1 hNextFound)
  refine ⟨?_, ?_, ?_⟩
  · have hTypes := funext (Model.withType_eq_of_perm hRenamed)
    rw [Model.withTypes_eq_filterMap hTyped, Model.withTypes_eq_filterMap hNextTyped, hTypes]
    exact (hRenamed.filterMap _).filterMap _
  · rw [hSkipped, hNextSkipped]
    exact hRenamed.filterMap _
  · have hSame : ∀ first second : Registry,
        ((document.renameSchemas settings.schemaRenames).traits names first).2 =
          ((other.renameSchemas settings.schemaRenames).traits names second).2 :=
      ApiDocument.traits_snd_eq hPaths names
    have hListed := congrArg Prod.snd hTraits
    rw [hSame _ _, hNextTraits] at hListed
    exact (Except.ok.inj hListed).symm

end SameSchemas

/-- The order in which a document lists its schemas makes no difference to whether it has a
plan. In another order it has the same models and skips the same names, in another order as
well. The traits are the same, and so is what each module writes down. -/
theorem make_of_perm {schemas : Table String Schema} (hSettings : settings.Separate)
    (hSchemas : document.schemas.entries.Perm schemas.entries) :
    ((∃ plan, Plan.make document settings = .ok plan) ↔
      ∃ plan, Plan.make { document with schemas := schemas } settings = .ok plan) ∧
    ∀ plan next, Plan.make document settings = .ok plan →
      Plan.make { document with schemas := schemas } settings = .ok next →
        plan.models.Perm next.models ∧ plan.skipped.Perm next.skipped ∧
        plan.traits = next.traits ∧
        ∀ key, (plan.modules.find? key).map Module.submodules =
          (next.modules.find? key).map Module.submodules := by
  have hPaths : document.paths = { document with schemas := schemas }.paths := rfl
  refine ⟨⟨?_, ?_⟩, fun plan next hPlan hNext => ?_⟩
  · rintro ⟨plan, hPlan⟩
    exact exists_make_of_perm hSchemas hPaths hPlan
  · rintro ⟨plan, hPlan⟩
    exact exists_make_of_perm hSchemas.symm hPaths.symm hPlan
  · obtain ⟨hModels, hSkipped, hTraits⟩ := parts_of_perm hSchemas hPaths hPlan hNext
    exact ⟨hModels, hSkipped, hTraits,
      submodules_eq_of_perm hPlan hNext hSettings hModels hTraits⟩

/-- The plain settings with modules of one letter, and with a rename. -/
def renamingSettings : Settings :=
  { plainSettings with
    modelsModule := "m"
    apiModule := "t"
    schemaRenames := Table.ofList [("A_B", "G_H")] }

theorem separate_renamingSettings : renamingSettings.Separate where
  models := ⟨"m", by decide +kernel⟩
  api := ⟨"t", by decide +kernel⟩
  differ := by decide +kernel
  captures := by
    intro entry hEntry
    cases hEntry

/-- A document of three schemas, of which the first is renamed. -/
def mixedDocument : ApiDocument :=
  ⟨Table.ofList [("A_B", .ofName "A_B" []), ("C_D", .ofName "C_D" []),
    ("E_F", .ofName "E_F" [])], Table.ofList [("/a", .null)]⟩

/-- The same schemas, the other way round. -/
def mixedSchemas : Table String Schema :=
  Table.ofList [("E_F", .ofName "E_F" []), ("C_D", .ofName "C_D" []), ("A_B", .ofName "A_B" [])]

theorem make_mixedDocument :
    (Plan.make mixedDocument renamingSettings).map (fun plan => plan.models.map Model.schema) =
      .ok ["C_D", "E_F", "G_H"] := by
  have hResolver : Resolver.ofSettings renamingSettings =
      .ok ⟨[.versioned, .unversioned], .ofLabel "m"⟩ := by decide +kernel
  have hNames : SegmentNames.ofSettings renamingSettings = .ok .smallLetters := by decide +kernel
  simp only [Plan.make, TraitNames.ofSettings, hResolver, hNames]
  cbv

theorem mixedDocument_make_other :
    ∃ plan next, Plan.make mixedDocument renamingSettings = .ok plan ∧
      Plan.make { mixedDocument with schemas := mixedSchemas } renamingSettings = .ok next ∧
      plan.models.map Model.schema = ["C_D", "E_F", "G_H"] ∧ plan.models.Perm next.models ∧
      (plan.modules.find? "crate::m").map Module.submodules =
        (next.modules.find? "crate::m").map Module.submodules := by
  have hPerm : mixedDocument.schemas.entries.Perm mixedSchemas.entries :=
    List.reverse_perm mixedSchemas.entries
  obtain ⟨hSucceeds, hAlike⟩ := make_of_perm separate_renamingSettings hPerm
  obtain ⟨plan, hPlan, hNames⟩ := map_eq_ok_iff.1 make_mixedDocument
  obtain ⟨next, hNext⟩ := hSucceeds.1 ⟨plan, hPlan⟩
  obtain ⟨hModels, -, -, hModules⟩ := hAlike plan next hPlan hNext
  exact ⟨plan, next, hPlan, hNext, hNames, hModels, hModules "crate::m"⟩

end Plan

end CratePlan
