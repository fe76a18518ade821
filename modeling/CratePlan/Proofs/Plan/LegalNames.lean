import CratePlan.Proofs.LegalName
import CratePlan.Proofs.PathDisplay
import CratePlan.Proofs.Plan.Declarations
import CratePlan.Proofs.Plan.ModuleClash
import CratePlan.Proofs.Schema.TypeNames

/-!
# The names in a plan

Whether a name can be written is asked where a model or a trait is made, and the modules are
written elsewhere, without asking again. Every name on the way to a model or a trait has been
asked about, except the one at the top: the two modules there are written as the settings have
them. So below the top all names of modules are legal.

The names of types are asked about in the same way, but none of them is marked. This is
enough for all of them but one, the name `Self`.

## Main statements

* `Plan.nameableBelow_of_mem_modulePaths`: the names of paths have been asked about.
* `Plan.module_names_legal`: the names of modules are legal.
* `Plan.type_names_legal_iff`: when the names of types are.
* `Plan.not_all_type_names_legal`: a plan in which one is not.
-/

namespace CratePlan

open Outcome

/-! ## Names that have been asked about -/

theorem Model.MadeOf.nameableBelow {resolver : Resolver} {found : SchemaMatch} {model : Model}
    (h : model.MadeOf resolver found) (hParts : found.Made) : model.modulePath.NameableBelow := by
  intro words hWords
  rw [h.components_eq, List.tail_cons, List.mem_append, List.mem_map, List.mem_singleton] at hWords
  rcases hWords with ⟨component, hComponent, rfl⟩ | rfl
  · exact Words.namesModule_of_writable (hParts.modules component hComponent)
      (h.writable.modules component hComponent)
  · exact Words.namesModule_of_writable hParts.model h.writable.model

namespace TraitNames

variable {settings : Settings} {traits : TraitNames}

/-- What a trait is called is an identifier, renamed or not. -/
theorem made_traitName (h : TraitNames.ofSettings settings = .ok traits) {module : Identifier}
    (hModule : module.Made) : (traits.traitName module).Made := by
  obtain ⟨names, -, hTraits⟩ := bind_eq_ok_iff.1 h
  cases hTraits
  unfold traitName
  cases hRename : (renamesOf settings.traitRenames).find? module.words with
  | none => exact hModule
  | some renamed =>
      obtain ⟨entry, -, hEntry⟩ := List.mem_map.1 (Table.mem_of_find?_ofList hRename)
      have hRenamed : Identifier.ofLabel entry.2 = renamed := congrArg Prod.snd hEntry
      exact hRenamed ▸ .ofLabel entry.2

end TraitNames

namespace Plan

variable {document : ApiDocument} {settings : Settings} {plan : Plan}

/-- Each trait of a plan is named after a path, and each path has a trait that is. -/
theorem exists_names (h : Plan.make document settings = .ok plan) {names : TraitNames}
    (hNames : TraitNames.ofSettings settings = .ok names) :
    (∀ trait ∈ plan.traits, ∃ path ∈ document.paths.keys, ∃ above last,
      names.Names (Endpoint.ownSegment path) above last trait) ∧
    ∀ path ∈ document.paths.keys, ∃ trait ∈ plan.traits, ∃ above last,
      names.Names (Endpoint.ownSegment path) above last trait := by
  obtain ⟨resolver, own, models, registry, -, hOwn, -, -, hTraits, -⟩ := make_eq_ok h
  obtain rfl : names = own := Except.ok.inj (hNames.symm.trans hOwn)
  exact ApiDocument.exists_names_of_traits hTraits

/-- The names of paths have been asked about, except those at the top. -/
theorem nameableBelow_of_mem_modulePaths (h : Plan.make document settings = .ok plan)
    {path : ModulePath} (hPath : path ∈ plan.modulePaths) : path.NameableBelow := by
  obtain ⟨resolver, names, models, registry, hResolver, hNames, -⟩ := make_eq_ok h
  rcases mem_modulePaths.1 hPath with ⟨model, hModel, rfl⟩ | ⟨trait, hTrait, rfl⟩
  · obtain ⟨entry, -, found, hFound, hMade⟩ := madeOf_of_mem_models h hResolver hModel
    exact hMade.nameableBelow (Resolver.made_of_resolve? hResolver hFound)
  · obtain ⟨own, -, above, last, hTraitNames⟩ := (exists_names h hNames).1 trait hTrait
    exact hTraitNames.nameableBelow

/-! ## Modules -/

/-- What is declared below the root can be written as a module. -/
theorem namesModule_of_declares (h : Plan.make document settings = .ok plan) {key : String}
    {name : Words} (hDeclares : plan.modules.Declares key name)
    (hKey : key ≠ ModulePath.root.display) : name.NamesModule := by
  have hRoot : ModulePath.root.display = "crate" := by decide
  rcases (declares_iff h).1 hDeclares with ⟨hTop, -⟩ | ⟨path, hPath, index, hIndex, -, -, hName⟩
  · exact absurd (hTop.trans hRoot.symm) hKey
  · exact (nameableBelow_of_mem_modulePaths h hPath).namesModule hIndex hName

/-- Below the two modules at the top, every name on the way to a model or a trait is legal as
it is written in the path, and so is every name that one of the modules on the way declares. -/
theorem module_names_legal (hPlan : Plan.make document settings = .ok plan) :
    (∀ path ∈ plan.models.map Model.modulePath ++ plan.traits.map Trait.modulePath,
      ∃ base names, path.components = base :: names ∧
        path.display =
          String.intercalate "::" ("crate" :: base.moduleName :: names.map Words.moduleName) ∧
        ∀ name ∈ names, IsModuleName name.moduleName) ∧
    ∀ path ∈ plan.models.map Model.modulePath ++ plan.traits.map Trait.modulePath,
      ∀ index module, 1 ≤ index → plan.modules.at? (path.take index) = some module →
        ∀ submodule ∈ module.submodules, IsModuleName submodule.name := by
  refine ⟨fun path hPath => ?_, fun path hPath index module hIndex hModule submodule hMem => ?_⟩
  · obtain ⟨top, hLies, -⟩ := liesIn_of_mem_modulePaths hPlan hPath
    have hNames := nameableBelow_of_mem_modulePaths hPlan hPath
    obtain ⟨base, names, hComponents⟩ : ∃ base names, path.components = base :: names :=
      List.exists_cons_of_ne_nil fun hNil => by simpa [hNil] using hLies.2
    refine ⟨base, names, hComponents, ?_, fun name hName => ?_⟩
    · rw [ModulePath.display, ModulePath.parts, hLies.1, hComponents]
      rfl
    · exact (hNames name (by simpa [hComponents] using hName)).isModuleName
  · obtain ⟨top, hLies, -⟩ := liesIn_of_mem_modulePaths hPlan hPath
    have hDeclares : plan.modules.Declares (path.take index).display submodule.words :=
      ⟨module, hModule, Module.declares_iff_exists_submodule.2 ⟨_, hMem, rfl⟩⟩
    have hBelow := (hLies.take hIndex).display_ne_root
    exact (namesModule_of_declares hPlan hDeclares hBelow).isModuleName

/-- A document in which names of modules are reserved words. -/
def reservedDocument : ApiDocument :=
  (ApiDocument.empty.addSchema "Type_Self" []).addPath "/match" .null

/-- The names of the types of models and traits. -/
def typeNames (plan : Plan) : List String :=
  plan.models.map (fun model => model.type.name) ++ plan.traits.map fun trait => trait.type.name

theorem make_reservedDocument :
    (Plan.make reservedDocument .default).map (fun plan =>
        (plan.models.map Model.modulePath, plan.typeNames)) =
      .ok ([.ofCrate [["models"], ["type"], ["self"]]], ["Self", "Match"]) := by
  simp only [Plan.make, Resolver.ofSettings_default, TraitNames.ofSettings_default]
  cbv

/-- What the document becomes: one model and one trait. -/
theorem exists_make_reservedDocument :
    ∃ plan, Plan.make reservedDocument .default = .ok plan ∧
      plan.models.map Model.modulePath = [.ofCrate [["models"], ["type"], ["self"]]] ∧
      plan.typeNames = ["Self", "Match"] := by
  obtain ⟨plan, hPlan, hParts⟩ := map_eq_ok_iff.1 make_reservedDocument
  exact ⟨plan, hPlan, congrArg Prod.fst hParts, congrArg Prod.snd hParts⟩

/-- The path of the model has a name that is marked, and below it one that cannot be marked and
has an underscore. It is declared with that in the module above. -/
theorem reservedDocument_modules :
    ∃ plan, Plan.make reservedDocument .default = .ok plan ∧
      ∃ path ∈ plan.models.map Model.modulePath, path.display = "crate::models::r#type::self_" ∧
        (∀ name ∈ path.components.tail, IsModuleName name.moduleName) ∧
        ∃ module, plan.modules.at? (path.take 2) = some module ∧
          ∃ submodule ∈ module.submodules, submodule.name = "self_" ∧
            IsModuleName submodule.name := by
  obtain ⟨plan, hPlan, hModels, -⟩ := exists_make_reservedDocument
  obtain ⟨hWritten, hDeclared⟩ := module_names_legal hPlan
  have hPath : ModulePath.ofCrate [["models"], ["type"], ["self"]] ∈
      plan.models.map Model.modulePath := by
    rw [hModels]
    exact List.mem_cons_self ..
  have hEither := List.mem_append_left (plan.traits.map Trait.modulePath) hPath
  obtain ⟨base, names, hComponents, -, hNames⟩ := hWritten _ hEither
  cases hComponents
  have hLast : plan.modules.Declares "crate::models::r#type" ["self"] :=
    (declares_iff hPlan).2 (.inr ⟨_, hEither, 2, by decide, by decide, by decide, rfl⟩)
  obtain ⟨module, hModule, hDeclares⟩ := hLast
  obtain ⟨submodule, hMem, hSelf⟩ := Module.declares_iff_exists_submodule.1 hDeclares
  refine ⟨plan, hPlan, _, hPath, by decide, hNames, module, hModule, submodule, hMem, ?_,
    hDeclared _ hEither 2 module (by decide) hModule _ hMem⟩
  rw [Submodule.name, hSelf]
  decide

/-! ## Types -/

theorem forall_typeNames_iff {p : String → Prop} : (∀ name ∈ plan.typeNames, p name) ↔
    (∀ model ∈ plan.models, p model.type.name) ∧ ∀ trait ∈ plan.traits, p trait.type.name := by
  simp [typeNames, or_imp, forall_and]

end Plan

/-- The type of a model is called as the model of the match says. -/
theorem Model.MadeOf.isTypeName_iff {resolver : Resolver} {found : SchemaMatch} {model : Model}
    (h : model.MadeOf resolver found) (hParts : found.Made) :
    isPlainName model.type.name = true ∧
      (IsTypeName model.type.name ↔ found.model.words ≠ Words.selfWords) := by
  have hName : found.model.render .pascal = .ok model.type.name :=
    Identifier.render_eq_ok_iff.2 ⟨h.writable.model, by rw [h.type]⟩
  exact hParts.model.isTypeName_iff hName

/-- The type of a trait is called as its segment says, or as that is renamed. -/
theorem TraitNames.Names.isTypeName_iff {settings : Settings} {traits : TraitNames}
    (hTraits : TraitNames.ofSettings settings = .ok traits) {segment : String}
    {above : List Identifier} {last : Identifier} {trait : Trait}
    (h : traits.Names segment above last trait) :
    isPlainName trait.type.name = true ∧
      (IsTypeName trait.type.name ↔ (traits.traitName last).words ≠ Words.selfWords) := by
  obtain ⟨name, -, hLast, -⟩ := h.called
  have hMade : last.Made := hLast ▸ .ofLabel name
  exact (TraitNames.made_traitName hTraits hMade).isTypeName_iff h.typeName

namespace Plan

variable {document : ApiDocument} {settings : Settings} {plan : Plan}

/-- The names of all types are spelled as names. They are legal exactly when no schema has a
model that is called `self`, and no trait is called so, renamed or not: the name is written
with a capital then, and without a mark. -/
theorem type_names_legal_iff (hPlan : Plan.make document settings = .ok plan) :
    (∀ name ∈ plan.typeNames, isPlainName name = true) ∧
    ((∀ name ∈ plan.typeNames, IsTypeName name) ↔
      (∀ resolver, Resolver.ofSettings settings = .ok resolver →
        ∀ entry ∈ (document.renameSchemas settings.schemaRenames).schemas.entries, ∀ found,
          resolver.resolveReference? entry.2.reference = some found →
            found.model.words ≠ Words.selfWords) ∧
      ∀ names, TraitNames.ofSettings settings = .ok names →
        ∀ path ∈ document.paths.keys, ∀ identifier,
          names.Calls (Endpoint.ownSegment path) identifier →
            (names.traitName identifier).words ≠ Words.selfWords) := by
  obtain ⟨resolver, names, models, registry, hResolver, hNames, -⟩ := make_eq_ok hPlan
  obtain ⟨hTraits, hPaths⟩ := exists_names hPlan hNames
  rw [forall_typeNames_iff, forall_typeNames_iff]
  refine ⟨⟨fun model hModel => ?_, fun trait hTrait => ?_⟩, ⟨?_, ?_⟩⟩
  · obtain ⟨entry, -, found, hFound, hMade⟩ := madeOf_of_mem_models hPlan hResolver hModel
    exact (hMade.isTypeName_iff (Resolver.made_of_resolve? hResolver hFound)).1
  · obtain ⟨path, -, above, last, hTrait⟩ := hTraits trait hTrait
    exact (hTrait.isTypeName_iff hNames).1
  · rintro ⟨hModelNames, hTraitNames⟩
    refine ⟨fun own hOwn entry hEntry found hFound => ?_,
      fun own hOwn path hPath called hCalls => ?_⟩
    · obtain ⟨model, hModel, hMade⟩ := exists_madeOf_of_resolve hPlan hOwn hEntry hFound
      have hParts := Resolver.made_of_resolve? hOwn hFound
      exact (hMade.isTypeName_iff hParts).2.1 (hModelNames model hModel)
    · obtain rfl : names = own := Except.ok.inj (hNames.symm.trans hOwn)
      obtain ⟨trait, hMem, above, last, hTrait⟩ := hPaths path hPath
      obtain rfl : called = last := hCalls.unique hTrait.called
      exact (hTrait.isTypeName_iff hNames).2.1 (hTraitNames trait hMem)
  · rintro ⟨hSchemas, hSegments⟩
    refine ⟨fun model hModel => ?_, fun trait hMem => ?_⟩
    · obtain ⟨entry, hEntry, found, hFound, hMade⟩ := madeOf_of_mem_models hPlan hResolver hModel
      have hParts := Resolver.made_of_resolve? hResolver hFound
      have hOther := hSchemas resolver hResolver entry hEntry found hFound
      exact (hMade.isTypeName_iff hParts).2.2 hOther
    · obtain ⟨path, hPath, above, last, hTrait⟩ := hTraits trait hMem
      have hOther := hSegments names hNames path hPath last hTrait.called
      exact (hTrait.isTypeName_iff hNames).2.2 hOther

theorem reservedDocument_types :
    ∃ plan, Plan.make reservedDocument .default = .ok plan ∧ isPlainName "Match" = true ∧
      plan.typeNames = ["Self", "Match"] := by
  obtain ⟨plan, hPlan, -, hTypes⟩ := exists_make_reservedDocument
  obtain ⟨hPlain, -⟩ := type_names_legal_iff hPlan
  have hMatch : "Match" ∈ plan.typeNames := by
    rw [hTypes]
    decide
  exact ⟨plan, hPlan, hPlain "Match" hMatch, hTypes⟩

/-- Not all types have legal names: nothing marks the reserved word `Self`. -/
theorem not_all_type_names_legal :
    ¬∀ (document : ApiDocument) (settings : Settings) (plan : Plan),
      Plan.make document settings = .ok plan → ∀ name ∈ plan.typeNames, IsTypeName name := by
  intro hAll
  obtain ⟨plan, hPlan, -, hTypes⟩ := exists_make_reservedDocument
  have hSelf : "Self" ∈ plan.typeNames := by
    rw [hTypes]
    decide
  have hKeyword : "Self" ∈ keywords := by decide
  exact (hAll reservedDocument .default plan hPlan "Self" hSelf).2 hKeyword

end Plan

end CratePlan
