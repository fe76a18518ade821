import CratePlan.Proofs.Plan.Traits
import CratePlan.Proofs.Schema.Models

/-!
# What a plan declares

The registry of a plan has three writers: the models register their paths, the traits
are declared below their parents' modules, and the two modules at the top come last.
Between them they declare what the paths of the plan's models and traits ask for, and
nothing else. For a model that is what registering a path means. A trait only declares
its own module, and the rest of its path is declared by the traits on the way to it.

## Main statements

* `Plan.make_eq_ok`: the steps by which a plan is made.
* `Plan.madeOf_of_mem_models`, `Plan.exists_madeOf_of_resolve`: what its models are made of.
* `Plan.exists_declarations`, `Plan.exists_steps`: its registry as a row of declarations.
* `Plan.declares_iff`, `Plan.declares_of_mem_modulePaths`: what is declared, and that each
  path can be followed from the root of the crate.
-/

namespace CratePlan

open Outcome

/-! ## The modules at the top -/

/-- The names on the way to a model: that of the module that all models are in, the modules
of the match, and its own. -/
theorem Model.MadeOf.components_eq {resolver : Resolver} {found : SchemaMatch} {model : Model}
    (h : model.MadeOf resolver found) : model.modulePath.components =
      resolver.base.words :: (found.module.map Identifier.words ++ [found.model.words]) := by
  rw [h.modulePath, Resolver.parentPath, ModulePath.foldl_append]
  rfl

theorem Model.MadeOf.liesIn {resolver : Resolver} {found : SchemaMatch} {model : Model}
    (h : model.MadeOf resolver found) : model.modulePath.LiesIn resolver.base.words := by
  rw [h.modulePath, Resolver.parentPath, ModulePath.foldl_append]
  exact ⟨rfl, rfl⟩

theorem Resolver.base_of_ofSettings {settings : Settings} {resolver : Resolver}
    (h : Resolver.ofSettings settings = .ok resolver) :
    resolver.base = .ofLabel settings.modelsModule := by
  obtain ⟨fixed, -, hResolver⟩ := bind_eq_ok_iff.1 h
  cases hResolver
  rfl

theorem TraitNames.base_of_ofSettings {settings : Settings} {traits : TraitNames}
    (h : TraitNames.ofSettings settings = .ok traits) :
    traits.base = .ofLabel settings.apiModule := by
  obtain ⟨names, -, hTraits⟩ := bind_eq_ok_iff.1 h
  cases hTraits
  rfl

namespace Plan

/-! ## The steps of a plan -/

/-- The modules of a plan's models and traits. -/
def modulePaths (plan : Plan) : List ModulePath :=
  plan.models.map Model.modulePath ++ plan.traits.map Trait.modulePath

theorem mem_modulePaths {plan : Plan} {path : ModulePath} :
    path ∈ plan.modulePaths ↔ (∃ model ∈ plan.models, model.modulePath = path) ∨
      ∃ trait ∈ plan.traits, trait.modulePath = path := by
  simp [modulePaths]

/-- The steps by which a plan is made. -/
theorem make_eq_ok {document : ApiDocument} {settings : Settings} {plan : Plan}
    (h : Plan.make document settings = .ok plan) :
    ∃ resolver names found registry,
      Resolver.ofSettings settings = .ok resolver ∧ TraitNames.ofSettings settings = .ok names ∧
      (document.renameSchemas settings.schemaRenames).models resolver =
        .ok (found, plan.skipped) ∧
      Model.withTypes (document.renameSchemas settings.schemaRenames).schemas found =
        (plan.models, .ok ()) ∧
      (document.renameSchemas settings.schemaRenames).traits names
        (plan.models.foldl (fun registry model => registry.register model.modulePath) .empty) =
          (registry, .ok plan.traits) ∧
      plan.modules = settings.topDeclarations.foldl Registry.declare registry := by
  obtain ⟨resolver, hResolver, h⟩ := bind_eq_ok_iff.1 h
  obtain ⟨names, hNames, h⟩ := bind_eq_ok_iff.1 h
  obtain ⟨⟨found, skipped⟩, hFound, h⟩ := bind_eq_ok_iff.1 h
  obtain ⟨⟨models, outcome⟩, hTyped⟩ :
      ∃ typed, Model.withTypes (document.renameSchemas settings.schemaRenames).schemas found = typed :=
    ⟨_, rfl⟩
  simp only [hTyped] at h
  obtain ⟨⟨⟩, hOutcome, h⟩ := bind_eq_ok_iff.1 h
  rw [mapError_eq_ok_iff] at hResolver hNames hOutcome
  split at h
  case h_1 => cases h
  case h_2 registry traits hTraits =>
      cases h
      rw [hOutcome] at hTyped
      exact ⟨resolver, names, found, registry, hResolver, hNames, hFound, hTyped, hTraits, rfl⟩

/-- Each model of a plan is made of the match of a schema. -/
theorem madeOf_of_mem_models {document : ApiDocument} {settings : Settings} {plan : Plan}
    (h : Plan.make document settings = .ok plan) {resolver : Resolver}
    (hResolver : Resolver.ofSettings settings = .ok resolver) {model : Model}
    (hModel : model ∈ plan.models) :
    ∃ entry ∈ (document.renameSchemas settings.schemaRenames).schemas.entries, ∃ found,
      resolver.resolveReference? entry.2.reference = some found ∧
        model.MadeOf resolver found := by
  obtain ⟨own, names, models, registry, hOwn, -, hModels, hTyped, -⟩ := make_eq_ok h
  obtain rfl : resolver = own := Except.ok.inj (hResolver.symm.trans hOwn)
  have hSame := Model.map_untyped_withTypes
    (document.renameSchemas settings.schemaRenames).schemas models
  rw [hTyped] at hSame
  obtain ⟨other, hOther, hUntyped⟩ := List.mem_map.1 (hSame ▸ List.mem_map_of_mem hModel)
  obtain ⟨entry, hEntry, found, hFound, hMade⟩ :=
    (mem_modelsOf_iff (mapError_eq_ok_iff.1 hModels) other).1 hOther
  obtain ⟨-, -, hMade⟩ := Model.ofMatch_eq_ok_iff.1 hMade
  exact ⟨entry, hEntry, found, hFound, hMade.of_untyped_eq hUntyped.symm⟩

/-- Each schema that is resolved has a model in the plan. -/
theorem exists_madeOf_of_resolve {document : ApiDocument} {settings : Settings} {plan : Plan}
    (h : Plan.make document settings = .ok plan) {resolver : Resolver}
    (hResolver : Resolver.ofSettings settings = .ok resolver) {entry : String × Schema}
    (hEntry : entry ∈ (document.renameSchemas settings.schemaRenames).schemas.entries)
    {found : SchemaMatch} (hFound : resolver.resolveReference? entry.2.reference = some found) :
    ∃ model ∈ plan.models, model.MadeOf resolver found := by
  obtain ⟨own, names, models, registry, hOwn, -, hModels, hTyped, -⟩ := make_eq_ok h
  obtain rfl : resolver = own := Except.ok.inj (hResolver.symm.trans hOwn)
  have hSame := Model.map_untyped_withTypes
    (document.renameSchemas settings.schemaRenames).schemas models
  rw [hTyped] at hSame
  obtain ⟨other, hOther, hMade⟩ :=
    exists_mem_modelsOf (mapError_eq_ok_iff.1 hModels) hEntry hFound
  obtain ⟨-, -, hMade⟩ := Model.ofMatch_eq_ok_iff.1 hMade
  obtain ⟨model, hModel, hUntyped⟩ := List.mem_map.1 (hSame ▸ List.mem_map_of_mem hOther)
  exact ⟨model, hModel, hMade.of_untyped_eq hUntyped⟩

/-! ## The declarations of a plan -/

/-- A row of registered paths as a row of declarations. -/
theorem foldl_register (models : List Model) (registry : Registry) :
    models.foldl (fun registry model => registry.register model.modulePath) registry =
      (models.flatMap fun model => model.modulePath.declarations).foldl Registry.declare
        registry := by
  rw [List.foldl_flatMap]
  rfl

theorem exists_mem_topDeclarations_iff {settings : Settings} {parent : ModulePath} {name : Words} :
    (∃ visibility, ⟨parent, name, visibility⟩ ∈ settings.topDeclarations) ↔
      parent = .root ∧ (name = Words.ofLabel settings.apiModule ∨
        name = Words.ofLabel settings.modelsModule) := by
  simp [Settings.topDeclarations, exists_or, and_or_left]

/-- What a plan asks to be declared: the two modules at the top, what the paths of the models
ask for, and each step to a trait. -/
def AsksFor (plan : Plan) (settings : Settings) (declaration : Declaration) : Prop :=
  declaration ∈ settings.topDeclarations ∨
    (∃ model ∈ plan.models, declaration ∈ model.modulePath.declarations) ∨
    (declaration.visibility = .named ∧
      ∃ trait ∈ plan.traits, trait.modulePath.HasStep declaration.parent declaration.words)

/-- A registry is what a row of declarations makes of the empty one. -/
theorem exists_declarations {document : ApiDocument} {settings : Settings} {plan : Plan}
    (h : Plan.make document settings = .ok plan) :
    ∃ declarations : List Declaration, plan.modules = declarations.foldl Registry.declare .empty ∧
      ∀ declaration, declaration ∈ declarations ↔ plan.AsksFor settings declaration := by
  obtain ⟨resolver, names, found, registry, -, -, -, -, hTraits, hModules⟩ := make_eq_ok h
  rw [foldl_register] at hTraits
  obtain ⟨-, declarations, rfl, hDeclarations⟩ := ApiDocument.traits_eq_ok hTraits
  rw [← List.foldl_append, ← List.foldl_append] at hModules
  refine ⟨_, hModules, fun declaration => ?_⟩
  rw [List.mem_append, List.mem_append, List.mem_flatMap, hDeclarations]
  exact or_rotate.symm

/-- The steps of all paths are declared, and the two modules at the top. -/
theorem exists_steps {document : ApiDocument} {settings : Settings} {plan : Plan}
    (h : Plan.make document settings = .ok plan) :
    ∃ declarations : List Declaration, plan.modules = declarations.foldl Registry.declare .empty ∧
      ∀ parent name, (∃ visibility, ⟨parent, name, visibility⟩ ∈ declarations) ↔
        (parent = .root ∧ (name = Words.ofLabel settings.apiModule ∨
          name = Words.ofLabel settings.modelsModule)) ∨
        ∃ path ∈ plan.modulePaths, path.HasStep parent name := by
  obtain ⟨declarations, hModules, hDeclarations⟩ := exists_declarations h
  refine ⟨declarations, hModules, fun parent name => ?_⟩
  simp only [hDeclarations, AsksFor, mem_modulePaths]
  constructor
  · rintro ⟨visibility, hTop | ⟨model, hModel, hAsked⟩ | ⟨-, trait, hTrait, hStep⟩⟩
    · exact .inl (exists_mem_topDeclarations_iff.1 ⟨visibility, hTop⟩)
    · have hStep := ModulePath.exists_mem_declarations_iff.1 ⟨visibility, hAsked⟩
      exact .inr ⟨_, .inl ⟨model, hModel, rfl⟩, hStep⟩
    · exact .inr ⟨_, .inr ⟨trait, hTrait, rfl⟩, hStep⟩
  · rintro (hTop | ⟨_, ⟨model, hModel, rfl⟩ | ⟨trait, hTrait, rfl⟩, hStep⟩)
    · obtain ⟨visibility, hTop⟩ := exists_mem_topDeclarations_iff.2 hTop
      exact ⟨visibility, .inl hTop⟩
    · obtain ⟨visibility, hAsked⟩ := ModulePath.exists_mem_declarations_iff.2 hStep
      exact ⟨visibility, .inr (.inl ⟨model, hModel, hAsked⟩)⟩
    · exact ⟨.named, .inr (.inr ⟨rfl, trait, hTrait, hStep⟩)⟩

/-- The modules of a plan lie below one of the two at the top. -/
theorem liesIn_of_mem_modulePaths {document : ApiDocument} {settings : Settings} {plan : Plan}
    (h : Plan.make document settings = .ok plan) {path : ModulePath}
    (hPath : path ∈ plan.modulePaths) :
    ∃ name, path.LiesIn name ∧
      (name = Words.ofLabel settings.apiModule ∨ name = Words.ofLabel settings.modelsModule) := by
  obtain ⟨resolver, names, found, registry, hResolver, hNames, hFound, hTyped, hTraits, -⟩ :=
    make_eq_ok h
  rcases mem_modulePaths.1 hPath with ⟨model, hModel, rfl⟩ | ⟨trait, hTrait, rfl⟩
  · obtain ⟨-, -, found, -, hMade⟩ := madeOf_of_mem_models h hResolver hModel
    have hBase := congrArg Identifier.words (Resolver.base_of_ofSettings hResolver)
    exact ⟨_, hMade.liesIn, .inr hBase⟩
  · have hLies := (ApiDocument.traits_eq_ok hTraits).1 trait hTrait
    have hBase := congrArg Identifier.words (TraitNames.base_of_ofSettings hNames)
    exact ⟨_, hLies, .inl hBase⟩

/-- A registry declares the two modules at the top and each step of a path, and nothing
else. -/
theorem declares_iff {document : ApiDocument} {settings : Settings} {plan : Plan}
    (h : Plan.make document settings = .ok plan) {key : String} {name : Words} :
    plan.modules.Declares key name ↔
      (key = "crate" ∧ (name = Words.ofLabel settings.apiModule ∨
        name = Words.ofLabel settings.modelsModule)) ∨
      ∃ path ∈ plan.modulePaths, ∃ index, 1 ≤ index ∧ index < path.length ∧
        (path.take index).display = key ∧ path.components[index]? = some name := by
  have hRoot : ModulePath.root.display = "crate" := by decide
  obtain ⟨declarations, hModules, hMem⟩ := exists_steps h
  rw [hModules, Registry.declares_foldl, or_iff_right (Registry.not_declares_empty key name)]
  constructor
  · rintro ⟨⟨parent, name, visibility⟩, hDeclaration, rfl, rfl⟩
    rcases (hMem parent name).1 ⟨visibility, hDeclaration⟩ with
      ⟨rfl, hName⟩ | ⟨path, hPath, index, hIndex, hName, rfl⟩
    · exact .inl ⟨hRoot, hName⟩
    · have hLt : index < path.length := (List.getElem?_eq_some_iff.1 hName).1
      exact .inr ⟨path, hPath, index, hIndex, hLt, rfl, hName⟩
  · rintro (⟨rfl, hName⟩ | ⟨path, hPath, index, hIndex, -, rfl, hName⟩)
    · obtain ⟨visibility, hDeclaration⟩ := (hMem .root name).2 (.inl ⟨rfl, hName⟩)
      exact ⟨_, hDeclaration, hRoot, rfl⟩
    · obtain ⟨visibility, hDeclaration⟩ :=
        (hMem (path.take index) name).2 (.inr ⟨path, hPath, index, hIndex, hName, rfl⟩)
      exact ⟨_, hDeclaration, rfl, rfl⟩

/-- Every step of a path is declared, from the root of the crate on. -/
theorem declares_of_mem_modulePaths {document : ApiDocument} {settings : Settings} {plan : Plan}
    (h : Plan.make document settings = .ok plan) {path : ModulePath}
    (hPath : path ∈ plan.modulePaths) {index : Nat} {name : Words}
    (hName : path.components[index]? = some name) :
    plan.modules.Declares (path.take index).display name := by
  rcases Nat.eq_zero_or_pos index with rfl | hIndex
  · obtain ⟨top, hLies, hTop⟩ := liesIn_of_mem_modulePaths h hPath
    rw [hLies.2, Option.some.injEq] at hName
    rw [hName] at hTop
    refine (declares_iff h).2 (.inl ⟨?_, hTop⟩)
    rw [hLies.display_take_zero]
    decide
  · have hLt : index < path.length := (List.getElem?_eq_some_iff.1 hName).1
    exact (declares_iff h).2 (.inr ⟨path, hPath, index, hIndex, hLt, rfl, hName⟩)

theorem occupied_modules {document : ApiDocument} {settings : Settings} {plan : Plan}
    (h : Plan.make document settings = .ok plan) : plan.modules.Occupied := by
  obtain ⟨declarations, hModules, -⟩ := exists_declarations h
  rw [hModules]
  exact Registry.occupied_empty.foldl

/-- The registry of a plan declares exactly what the plan needs. Each module on the way
to a model or a trait is declared, step by step from the root of the crate, and no
module is there without a reason. -/
theorem modules_declare_exactly {document : ApiDocument} {settings : Settings} {plan : Plan}
    (hPlan : Plan.make document settings = .ok plan) :
    (∀ key name, plan.modules.Declares key name ↔
      (key = "crate" ∧ (name = Words.ofLabel settings.apiModule ∨
        name = Words.ofLabel settings.modelsModule)) ∨
      ∃ path ∈ plan.models.map Model.modulePath ++ plan.traits.map Trait.modulePath,
        ∃ index, 1 ≤ index ∧ index < path.length ∧
          (path.take index).display = key ∧ path.components[index]? = some name) ∧
    (∀ path ∈ plan.models.map Model.modulePath ++ plan.traits.map Trait.modulePath,
      (path.take 0).display = "crate" ∧ ∀ index name, path.components[index]? = some name →
        plan.modules.Declares (path.take index).display name) ∧
    ∀ key module, plan.modules.find? key = some module →
      ∃ name, module.declares name = true := by
  refine ⟨fun key name => declares_iff hPlan, fun path hPath => ⟨?_, fun index name hName => ?_⟩,
    occupied_modules hPlan⟩
  · obtain ⟨top, hLies, -⟩ := liesIn_of_mem_modulePaths hPlan hPath
    rw [hLies.display_take_zero]
    decide
  · exact declares_of_mem_modulePaths hPlan hPath hName

/-- Settings without fixed modules and renames, under which a segment of small letters is
its own name. -/
def plainSettings : Settings where
  modelsModule := "models"
  apiModule := "api"
  fixedModules := []
  schemaRenames := Table.empty
  traitRenames := Table.empty
  segmentPatterns := ["(?P<name>[a-z]+)"]

theorem resolver_plainSettings :
    Resolver.ofSettings plainSettings = .ok ⟨[.versioned, .unversioned], .ofLabel "models"⟩ := by
  decide +kernel

theorem segmentNames_plainSettings : SegmentNames.ofSettings plainSettings = .ok .smallLetters := by
  decide +kernel

/-- A document of one schema and two paths. -/
def smallDocument : ApiDocument :=
  ((ApiDocument.empty.addSchema "Chassis_Chassis" []).addPath "/a" .null).addPath "/a/b" .null

theorem make_smallDocument :
    (Plan.make smallDocument plainSettings).map Plan.modulePaths =
      .ok [.ofCrate [["models"], ["chassis"], ["chassis"]], .ofCrate [["api"], ["a"]],
        .ofCrate [["api"], ["a"], ["b"]]] := by
  simp only [Plan.make, TraitNames.ofSettings, resolver_plainSettings, segmentNames_plainSettings]
  cbv

theorem smallDocument_declares :
    ∃ plan, Plan.make smallDocument plainSettings = .ok plan ∧
      plan.modules.Declares "crate" ["api"] ∧ plan.modules.Declares "crate::api" ["a"] ∧
      plan.modules.Declares "crate::api::a" ["b"] ∧
      plan.modules.Declares "crate::models::chassis" ["chassis"] := by
  obtain ⟨plan, hPlan, hPaths⟩ := map_eq_ok_iff.1 make_smallDocument
  obtain ⟨-, hSteps, -⟩ := modules_declare_exactly hPlan
  have hLast : ModulePath.ofCrate [["api"], ["a"], ["b"]] ∈ plan.modulePaths := by simp [hPaths]
  have hModel : ModulePath.ofCrate [["models"], ["chassis"], ["chassis"]] ∈ plan.modulePaths := by
    simp [hPaths]
  have hLast := (hSteps _ hLast).2
  exact ⟨plan, hPlan, hLast 0 _ rfl, hLast 1 _ rfl, hLast 2 _ rfl, (hSteps _ hModel).2 2 _ rfl⟩

end Plan

end CratePlan
