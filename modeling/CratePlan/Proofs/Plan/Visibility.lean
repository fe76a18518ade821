import CratePlan.Proofs.Plan.LegalNames

/-!
# How modules are shown

The first declaration of a name decides how its module is shown, and schemas come in any
order. A model's own module is to be anonymous, so that its type is reached without it, and
all others are to be named. This can only go wrong where a module is declared in both ways.

There is one place where that could be. In the module of a schema, versions are declared as
modules and unversioned models are declared too. But a model that is made of letters and
digits is not called like a version, whose words have numbers among them. Elsewhere the depth
of a module tells whether it is a model's own. For this the models and the traits need
different modules at the top, and both of these must be names that can be written: else what
is written for a path may be that of another one.

## Main statements

* `Resolver.apart_of_resolve?`: a model is not called like a version.
* `Model.MadeOf.visibility_eq_anonymous_iff`: a model's own module is known by its depth and
  its name.
* `Plan.shows_of_asksFor`, `Plan.exists_asksFor_of_shows`: no two declarations of a plan are at
  odds, and all are carried out.
* `Plan.only_leaves_anonymous`: how the modules of a plan are shown.
-/

namespace CratePlan

open Outcome

/-! ## Models and versions -/

/-- The settings keep models and traits apart, and their patterns find letters and digits. -/
structure Settings.Separate (settings : Settings) : Prop where
  models : ∃ text, (Identifier.ofLabel settings.modelsModule).render .snake = .ok text
  api : ∃ text, (Identifier.ofLabel settings.apiModule).render .snake = .ok text
  differ : Words.ofLabel settings.apiModule ≠ Words.ofLabel settings.modelsModule
  captures : ∀ entry ∈ settings.fixedModules, ∀ pattern,
    Pattern.ofText? entry.pattern = some pattern → ∀ name model,
      pattern.capture? Convention.modelGroup name = some model →
        model.toList.all Char.isAlphanum = true

theorem Settings.Separate.namesModule_models {settings : Settings} (h : settings.Separate) :
    (Words.ofLabel settings.modelsModule).NamesModule :=
  ⟨_, .ofLabel settings.modelsModule, rfl, h.models⟩

theorem Settings.Separate.namesModule_api {settings : Settings} (h : settings.Separate) :
    (Words.ofLabel settings.apiModule).NamesModule :=
  ⟨_, .ofLabel settings.apiModule, rfl, h.api⟩

/-- A match has a module, and if it has more of them, the others are not called like models
of letters and digits, of which its own is one. -/
structure SchemaMatch.Apart (found : SchemaMatch) : Prop where
  module : found.module ≠ []
  versions : ∀ component ∈ found.module.tail, ¬Words.IsSpoken component.words
  model : ∃ label : String, label.toList.all Char.isAlphanum = true ∧
    found.model = Identifier.ofLabel label

/-- A model is not called like a version. -/
theorem Resolver.apart_of_resolve? {settings : Settings} {resolver : Resolver}
    (hResolver : Resolver.ofSettings settings = .ok resolver) (hSettings : settings.Separate)
    {name : String} {found : SchemaMatch} (h : resolver.resolve? name = some found) :
    found.Apart := by
  obtain ⟨convention, hMem, hMatch⟩ := List.exists_of_findSome?_eq_some h
  rcases conventions_cases hResolver hMem with rfl | rfl | ⟨entry, hEntry, pattern, hPattern, rfl⟩
  · obtain ⟨parts, hParts, rfl⟩ := Option.map_eq_some_iff.1 hMatch
    obtain ⟨-, -, hVersion, hModel⟩ := VersionedName.text_eq hParts
    have hWords := hVersion.not_isSpoken
    rw [String.ofList_toList] at hWords
    exact ⟨List.cons_ne_nil _ _, List.forall_mem_singleton.2 hWords,
      parts.model, all_isAlphanum_of_isModelText hModel, rfl⟩
  · obtain ⟨parts, hParts, rfl⟩ := Option.map_eq_some_iff.1 hMatch
    obtain ⟨-, -, hModel⟩ := UnversionedName.text_eq hParts
    exact ⟨List.cons_ne_nil _ _, List.forall_mem_nil _,
      parts.model, all_isAlphanum_of_isModelText hModel, rfl⟩
  · obtain ⟨model, hCapture, rfl⟩ := Option.map_eq_some_iff.1 hMatch
    exact ⟨List.cons_ne_nil _ _, List.forall_mem_nil _,
      model, hSettings.captures entry hEntry pattern hPattern name model hCapture, rfl⟩

/-! ## The declarations of models -/

namespace Model.MadeOf

variable {resolver : Resolver} {found : SchemaMatch} {model : Model}

theorem length_modulePath (h : model.MadeOf resolver found) :
    model.modulePath.length = found.module.length + 2 := by
  rw [ModulePath.length, h.components_eq]
  simp

/-- Below the top, a name on the way to a model is that of the model, or that of a module of
the match. -/
theorem component_cases (h : model.MadeOf resolver found) {below : Nat} {name : Words}
    (hName : model.modulePath.components[below + 1]? = some name) :
    (below = found.module.length ∧ name = found.model.words) ∨
      ∃ component, found.module[below]? = some component ∧ component.words = name := by
  rw [h.components_eq, List.getElem?_cons_succ] at hName
  rcases Nat.lt_or_ge below (found.module.map Identifier.words).length with hInner | hOuter
  · rw [List.getElem?_append_left hInner, List.getElem?_map, Option.map_eq_some_iff] at hName
    exact .inr hName
  · rw [List.getElem?_append_right hOuter, List.getElem?_singleton] at hName
    rw [List.length_map] at hName hOuter
    obtain ⟨hFirst, hLeaf⟩ := Option.ite_none_right_eq_some.1 hName
    exact .inl ⟨by omega, (Option.some.inj hLeaf).symm⟩

/-- Of the modules that the path of a model asks for, its own is known by its depth and its
name. -/
theorem visibility_eq_anonymous_iff (h : model.MadeOf resolver found) (hApart : found.Apart)
    {declaration : Declaration} (hMem : declaration ∈ model.modulePath.declarations) :
    declaration.visibility = .anonymous ↔
      2 ≤ declaration.parent.length ∧ declaration.words.IsSpoken := by
  obtain ⟨index, hIndex, hName, hParent, hVisibility⟩ := ModulePath.mem_declarations_iff.1 hMem
  have hDepth : declaration.parent.length = index := by
    have hLt : index < model.modulePath.length := (List.getElem?_eq_some_iff.1 hName).1
    rw [hParent, ModulePath.take, ModulePath.length, List.length_take]
    exact Nat.min_eq_left (Nat.le_of_lt hLt)
  have hAll := h.length_modulePath
  have hSome : 0 < found.module.length := List.length_pos_iff.2 hApart.module
  obtain ⟨below, rfl⟩ := Nat.exists_eq_add_of_le' hIndex
  rw [hVisibility, hDepth]
  rcases h.component_cases hName with ⟨hLast, hLeaf⟩ | ⟨component, hComponent, hWords⟩
  · have hSpoken : declaration.words.IsSpoken :=
      hLeaf ▸ SchemaMatch.isSpoken_model hApart.model h.writable.model
    rw [if_pos (by omega)]
    exact iff_of_true rfl ⟨by omega, hSpoken⟩
  · have hInner : below < found.module.length := (List.getElem?_eq_some_iff.1 hComponent).1
    rw [if_neg (by omega)]
    refine iff_of_false (by decide) ?_
    rintro ⟨hDeep, hSpoken⟩
    -- At this depth the module is a version.
    obtain ⟨version, rfl⟩ : ∃ version, below = version + 1 :=
      Nat.exists_eq_add_of_le' (show 1 ≤ below by omega)
    rw [← List.getElem?_tail] at hComponent
    exact hApart.versions component (List.mem_of_getElem? hComponent) (hWords ▸ hSpoken)

end Model.MadeOf

/-! ## The declarations of a plan -/

/-- Where a declaration of a plan is made: at the top, for a model, or for a trait. What it
asks for is known from this, from the depth, and from the name. -/
inductive Declaration.Source (settings : Settings) (declaration : Declaration) : Prop where
  | top (hParent : declaration.parent = .root) (hNamed : declaration.visibility = .named)
  | model (hLies : declaration.parent.LiesIn (Words.ofLabel settings.modelsModule))
      (hNameable : declaration.parent.Nameable)
      (hAnonymous : declaration.visibility = .anonymous ↔
        2 ≤ declaration.parent.length ∧ declaration.words.IsSpoken)
  | trait (hLies : declaration.parent.LiesIn (Words.ofLabel settings.apiModule))
      (hNamed : declaration.visibility = .named)

/-- A declaration that is about the same name as an anonymous one is anonymous as well. -/
theorem Declaration.Source.anonymous {settings : Settings} {declaration other : Declaration}
    (hSettings : settings.Separate) (h : declaration.Source settings)
    (hOther : other.Source settings) (hKey : declaration.parent.display = other.parent.display)
    (hWords : declaration.words = other.words) (hVisibility : declaration.visibility = .anonymous) :
    other.visibility = .anonymous := by
  cases h with
  | top _ hNamed =>
      rw [hNamed] at hVisibility
      cases hVisibility
  | trait _ hNamed =>
      rw [hNamed] at hVisibility
      cases hVisibility
  | model hLies hNameable hAnonymous =>
      cases hOther with
      | top hParent =>
          rw [hParent] at hKey
          exact absurd hKey hLies.display_ne_root
      | trait hOtherLies =>
          have hSame := hLies.eq_of_display_eq hOtherLies hSettings.namesModule_models
            hSettings.namesModule_api hKey
          exact absurd hSame.symm hSettings.differ
      | model _ hOtherNameable hOtherAnonymous =>
          have hParent : declaration.parent = other.parent :=
            hNameable.display_inj hOtherNameable hKey
          rw [hOtherAnonymous, ← hParent, ← hWords]
          exact hAnonymous.1 hVisibility

namespace Plan

variable {document : ApiDocument} {settings : Settings} {plan : Plan}

/-- What a plan asks for has one of the three sources. -/
theorem AsksFor.source (hPlan : Plan.make document settings = .ok plan)
    (hSettings : settings.Separate) {declaration : Declaration}
    (h : plan.AsksFor settings declaration) : declaration.Source settings := by
  obtain ⟨resolver, names, models, registry, hResolver, hNames, -, -, hTraits, -⟩ :=
    make_eq_ok hPlan
  rcases h with hTop | ⟨model, hModel, hAsked⟩ | ⟨hNamed, trait, hTrait, hStep⟩
  · simp only [Settings.topDeclarations, List.mem_cons, List.not_mem_nil, or_false] at hTop
    rcases hTop with rfl | rfl
    · exact .top rfl rfl
    · exact .top rfl rfl
  · obtain ⟨entry, -, found, hFound, hMade⟩ := madeOf_of_mem_models hPlan hResolver hModel
    have hLies := hMade.liesIn
    rw [Resolver.base_of_ofSettings hResolver] at hLies
    have hNameable := (hMade.nameableBelow (Resolver.made_of_resolve? hResolver hFound)).nameable
      hLies hSettings.namesModule_models
    have hApart := Resolver.apart_of_resolve? hResolver hSettings hFound
    have hAnonymous := hMade.visibility_eq_anonymous_iff hApart hAsked
    obtain ⟨index, hIndex, -, hParent, -⟩ := ModulePath.mem_declarations_iff.1 hAsked
    exact .model (hParent ▸ hLies.take hIndex) (hParent ▸ hNameable.take index) hAnonymous
  · have hLies := (ApiDocument.traits_eq_ok hTraits).1 trait hTrait
    rw [TraitNames.base_of_ofSettings hNames] at hLies
    obtain ⟨index, hIndex, -, hParent⟩ := hStep
    exact .trait (hParent ▸ hLies.take hIndex) hNamed

/-- No two declarations of a plan are at odds, so that each of them is carried out. -/
theorem shows_of_asksFor (hPlan : Plan.make document settings = .ok plan)
    (hSettings : settings.Separate) {declaration : Declaration}
    (h : plan.AsksFor settings declaration) :
    plan.modules.Shows declaration.parent declaration.words declaration.visibility := by
  obtain ⟨declarations, hModules, hMem⟩ := exists_declarations hPlan
  rw [Registry.shows_iff, hModules]
  refine Registry.shown?_of_agree ((hMem declaration).2 h) fun other hOther hConcerns => ?_
  have hSource := h.source hPlan hSettings
  have hOtherSource := ((hMem other).1 hOther).source hPlan hSettings
  obtain ⟨hKey, hWords⟩ := hConcerns
  cases hVisibility : declaration.visibility with
  | anonymous => exact hSource.anonymous hSettings hOtherSource hKey.symm hWords.symm hVisibility
  | named =>
      cases hOtherVisibility : other.visibility with
      | named => rfl
      | anonymous =>
          have hBoth := hOtherSource.anonymous hSettings hSource hKey hWords hOtherVisibility
          rw [hVisibility] at hBoth
          cases hBoth

/-- What the module under a key shows, the plan has asked for. -/
theorem exists_asksFor_of_shown? (hPlan : Plan.make document settings = .ok plan) {key : String}
    {name : Words} {visibility : Visibility}
    (h : plan.modules.shown? key name = some visibility) : ∃ declaration,
      plan.AsksFor settings declaration ∧ declaration.Concerns key name ∧
        declaration.visibility = visibility := by
  obtain ⟨declarations, hModules, hMem⟩ := exists_declarations hPlan
  rw [hModules] at h
  obtain ⟨declaration, hDeclaration, hConcerns, hVisibility⟩ := Registry.exists_of_shown? h
  exact ⟨declaration, (hMem declaration).1 hDeclaration, hConcerns, hVisibility⟩

/-- What a module shows, the plan has asked for. -/
theorem exists_asksFor_of_shows (hPlan : Plan.make document settings = .ok plan)
    {path : ModulePath} {name : Words} {visibility : Visibility}
    (h : plan.modules.Shows path name visibility) : ∃ declaration,
      plan.AsksFor settings declaration ∧ declaration.Concerns path.display name ∧
        declaration.visibility = visibility :=
  exists_asksFor_of_shown? hPlan (Registry.shows_iff.1 h)

/-- The module at the top is shown under its name, whichever of the two it is. -/
theorem shows_top (hPlan : Plan.make document settings = .ok plan) (hSettings : settings.Separate) :
    plan.modules.Shows .root (Words.ofLabel settings.apiModule) .named ∧
      plan.modules.Shows .root (Words.ofLabel settings.modelsModule) .named := by
  have hTop : ∀ declaration ∈ settings.topDeclarations,
      plan.modules.Shows declaration.parent declaration.words declaration.visibility :=
    fun declaration hMem => shows_of_asksFor hPlan hSettings (.inl hMem)
  obtain ⟨hApi, hRest⟩ := List.forall_mem_cons.1 hTop
  exact ⟨hApi, hRest _ (List.mem_singleton.2 rfl)⟩

/-- Each module on the way to a model is shown under its name, and the model's own is
anonymous. -/
theorem shows_model (hPlan : Plan.make document settings = .ok plan)
    (hSettings : settings.Separate) {model : Model} (hModel : model ∈ plan.models) {index : Nat}
    {name : Words} (hName : model.modulePath.components[index]? = some name) :
    plan.modules.Shows (model.modulePath.take index) name
      (if index + 1 = model.modulePath.length then .anonymous else .named) := by
  obtain ⟨resolver, names, models, registry, hResolver, -⟩ := make_eq_ok hPlan
  obtain ⟨entry, -, found, -, hMade⟩ := madeOf_of_mem_models hPlan hResolver hModel
  rcases Nat.eq_zero_or_pos index with rfl | hIndex
  · have hDeep : 0 + 1 ≠ model.modulePath.length := by
      rw [hMade.length_modulePath]
      omega
    have hBase : name = Words.ofLabel settings.modelsModule := by
      rw [hMade.components_eq, Resolver.base_of_ofSettings hResolver] at hName
      exact (Option.some.inj hName).symm
    have hRoot : model.modulePath.take 0 = .root := by
      rw [ModulePath.take, hMade.liesIn.1, List.take_zero]
      rfl
    rw [if_neg hDeep, hRoot, hBase]
    exact (shows_top hPlan hSettings).2
  · have hAsked : ⟨model.modulePath.take index, name,
        if index + 1 = model.modulePath.length then .anonymous else .named⟩ ∈
          model.modulePath.declarations :=
      ModulePath.mem_declarations_iff.2 ⟨index, hIndex, hName, rfl, rfl⟩
    exact shows_of_asksFor hPlan hSettings (.inr (.inl ⟨model, hModel, hAsked⟩))

/-- In a module at or below the one that all traits are in, every submodule is named. -/
theorem named_of_liesIn_api (hPlan : Plan.make document settings = .ok plan)
    (hSettings : settings.Separate) {path : ModulePath}
    (hLies : path.LiesIn (Words.ofLabel settings.apiModule)) {name : Words}
    {visibility : Visibility} (h : plan.modules.Shows path name visibility) :
    visibility = .named := by
  obtain ⟨declaration, hAsks, ⟨hKey, -⟩, rfl⟩ := exists_asksFor_of_shows hPlan h
  cases hAsks.source hPlan hSettings with
  | top _ hNamed => exact hNamed
  | trait _ hNamed => exact hNamed
  | model hOther =>
      have hSame := hOther.eq_of_display_eq hLies hSettings.namesModule_models
        hSettings.namesModule_api hKey
      exact absurd hSame.symm hSettings.differ

/-- Only a model's own module is anonymous, in the module that the type of the model is
reached through. The modules on the way to that one are named, and so are all modules of
traits and the two modules at the top. -/
theorem only_leaves_anonymous (hPlan : Plan.make document settings = .ok plan)
    (hSettings : settings.Separate) :
    (∀ model ∈ plan.models, ∃ leaf, model.modulePath = model.type.path.append leaf ∧
      plan.modules.Shows model.type.path leaf .anonymous ∧
      ∀ index name, index + 1 < model.modulePath.length →
        model.modulePath.components[index]? = some name →
          plan.modules.Shows (model.modulePath.take index) name .named) ∧
    (∀ path module, path.LiesIn (Words.ofLabel settings.apiModule) →
      plan.modules.at? path = some module →
        ∀ submodule ∈ module.submodules, submodule.visibility = .named) ∧
    plan.modules.Shows .root (Words.ofLabel settings.apiModule) .named ∧
    plan.modules.Shows .root (Words.ofLabel settings.modelsModule) .named := by
  refine ⟨fun model hModel => ?_, fun path module hLies hModule submodule hMem => ?_,
    shows_top hPlan hSettings⟩
  · obtain ⟨resolver, names, models, registry, hResolver, -⟩ := make_eq_ok hPlan
    obtain ⟨entry, -, found, -, hMade⟩ := madeOf_of_mem_models hPlan hResolver hModel
    have hPath : model.modulePath = model.type.path.append found.model.words := by
      rw [hMade.modulePath, hMade.type]
    refine ⟨found.model.words, hPath, ?_, fun index name hLt hName => ?_⟩
    · have hLast : model.modulePath.components[model.type.path.length]? =
          some found.model.words := by
        rw [hPath, ModulePath.components_append]
        exact List.getElem?_concat_length
      have hShows := shows_model hPlan hSettings hModel hLast
      rwa [hPath, ModulePath.take_append, ModulePath.length_append, if_pos rfl] at hShows
    · have hShows := shows_model hPlan hSettings hModel hName
      rwa [if_neg (Nat.ne_of_lt hLt)] at hShows
  · exact named_of_liesIn_api hPlan hSettings hLies ⟨module, hModule, hMem⟩

end Plan

/-! ## The usual settings -/

/-- The usual settings keep models and traits apart. -/
theorem Settings.separate_default : Settings.default.Separate where
  models := ⟨"models", by decide +kernel⟩
  api := ⟨"api", by decide +kernel⟩
  differ := by decide +kernel
  captures := by
    have hRedfish : Pattern.ofText? "^Redfish(?P<model>[A-Za-z0-9]+)$" =
        some (Convention.wordBehind "Redfish") := by decide +kernel
    have hOData : Pattern.ofText? "^odata-v4_(?P<model>[A-Za-z0-9]+)$" =
        some (Convention.wordBehind "odata-v4_") := by decide +kernel
    intro entry hEntry pattern hPattern name model hCapture
    simp only [Settings.default, List.mem_cons, List.not_mem_nil, or_false] at hEntry
    rcases hEntry with rfl | rfl
    · obtain rfl : _ = pattern := Option.some.inj (hRedfish.symm.trans hPattern)
      exact List.all_eq_true.2 (Convention.capture?_wordBehind.1 hCapture).2.2
    · obtain rfl : _ = pattern := Option.some.inj (hOData.symm.trans hPattern)
      exact List.all_eq_true.2 (Convention.capture?_wordBehind.1 hCapture).2.2

theorem Plan.reservedDocument_visibilities :
    ∃ plan, Plan.make reservedDocument .default = .ok plan ∧ Settings.default.Separate ∧
      plan.modules.Shows (.ofCrate [["models"], ["type"]]) ["self"] .anonymous ∧
      plan.modules.Shows .root (Words.ofLabel "api") .named := by
  obtain ⟨plan, hPlan, hModels, -⟩ := exists_make_reservedDocument
  obtain ⟨hLeaves, -, hApi, -⟩ := only_leaves_anonymous hPlan Settings.separate_default
  obtain ⟨model, hModel, hPath⟩ := List.mem_map.1 (hModels ▸ List.mem_singleton.2 rfl)
  obtain ⟨leaf, hOwn, hLeaf, -⟩ := hLeaves model hModel
  have hParts : ModulePath.append (.ofCrate [["models"], ["type"]]) ["self"] =
      model.type.path.append leaf := by
    rw [← hOwn, hPath]
    rfl
  obtain ⟨hParent, hName⟩ := ModulePath.append_inj.1 hParts
  rw [← hParent, ← hName] at hLeaf
  exact ⟨plan, hPlan, Settings.separate_default, hLeaf, hApi⟩

end CratePlan
