import CratePlan.Proofs.Plan.ModuleClash
import CratePlan.Proofs.Plan.Success
import CratePlan.Proofs.Schema.NameTexts

/-!
# Names that end a plan

A schema whose name no convention recognises is skipped. One whose name is recognised but has
words that cannot be written ends the plan, with an error that says which text was at fault. In
the usual settings this happens for a single reason: a module or a model was read in the name,
and it begins with a digit.

A plan also ends with such an error when the name of an endpoint cannot be written. That is the
only other way, since nothing is asked of the two modules at the top of the crate, and canonical
types have errors of their own.

## Main statements

* `exists_modelsOf_eq_error_iff`: when a row of schemas has no models.
* `Plan.exists_of_make_eq_unwritable`: where the error of a plan is from.
* `Resolver.refused_only_for_digits`: which names are refused, and what this does to a plan.
-/

namespace CratePlan

open Text Outcome

/-! ## Models and traits -/

/-- The error of a model is that of the type of its match. -/
theorem Model.typePath_of_ofMatch_eq_error {resolver : Resolver} {name : String}
    {found : SchemaMatch} {fault : CaseError}
    (h : Model.ofMatch resolver name found = .error fault) :
    resolver.typePath found = .error fault := by
  rcases Resolver.exists_typePath_or_error resolver found with
    ⟨hWritable, -⟩ | ⟨-, other, hType, -⟩
  · obtain ⟨model, hModel⟩ : ∃ model, Model.ofMatch resolver name found = .ok model :=
      exists_ofMatch_iff.2 hWritable
    rw [hModel] at h
    cases h
  · rw [Model.ofMatch, hType] at h
    cases h
    exact hType

/-- The error of a row of schemas is that of the match of one of them. -/
theorem exists_of_modelsOf_eq_error {resolver : Resolver} {fault : CaseError}
    {entries : List (String × Schema)} (h : modelsOf resolver entries = .error fault) :
    ∃ entry ∈ entries, ∃ found, resolver.resolveReference? entry.2.reference = some found ∧
      resolver.typePath found = .error fault := by
  induction entries with
  | nil => cases h
  | cons entry rest ih =>
      have hBelow : modelsOf resolver rest = .error fault →
          ∃ other ∈ entry :: rest, ∃ found,
            resolver.resolveReference? other.2.reference = some found ∧
              resolver.typePath found = .error fault := by
        intro hRest
        obtain ⟨other, hOther, hFault⟩ := ih hRest
        exact ⟨other, List.mem_cons_of_mem _ hOther, hFault⟩
      rw [modelsOf] at h
      cases hFound : resolver.resolveReference? entry.2.reference with
      | none =>
          rw [hFound] at h
          rcases bind_eq_error_iff.1 h with hRest | ⟨others, -, hPure⟩
          · exact hBelow hRest
          · cases hPure
      | some found =>
          rw [hFound] at h
          rcases bind_eq_error_iff.1 h with hMatch | ⟨model, -, hNext⟩
          · exact ⟨entry, List.mem_cons_self .., found, hFound,
              Model.typePath_of_ofMatch_eq_error hMatch⟩
          · rcases bind_eq_error_iff.1 hNext with hRest | ⟨others, -, hPure⟩
            · exact hBelow hRest
            · cases hPure

/-- A row of schemas has no models exactly if something speaks against the name of one. -/
theorem exists_modelsOf_eq_error_iff {entries : List (String × Schema)} :
    (∃ fault, modelsOf .usual entries = .error fault) ↔
      ∃ entry ∈ entries, ∃ text, Resolver.usual.Refuses (lastSegment entry.2.reference) text := by
  constructor
  · rintro ⟨fault, hModels⟩
    obtain ⟨entry, hEntry, found, hFound, hType⟩ := exists_of_modelsOf_eq_error hModels
    exact ⟨entry, hEntry, fault.text, Resolver.refuses_of_typePath_eq_error hFound hType⟩
  · rintro ⟨entry, hEntry, text, hText⟩
    have ⟨_, hTexts, _⟩ := hText
    obtain ⟨found, hFound⟩ := Resolver.exists_resolve?_of_texts? hTexts
    cases hModels : modelsOf .usual entries with
    | error fault => exact ⟨fault, rfl⟩
    | ok made =>
        have hWritable := exists_modelsOf_iff.1 ⟨made.1, made.2, hModels⟩ entry hEntry found hFound
        exact absurd hText ((Resolver.writable_of_resolve?_iff hFound).1 hWritable text)

namespace Plan

variable {document : ApiDocument} {settings : Settings} {resolver : Resolver} {names : TraitNames}
  {fault : CaseError}

/-- Without models there is no plan, for the same reason. -/
theorem make_of_modelsOf_eq_error (hResolver : Resolver.ofSettings settings = .ok resolver)
    (hNames : TraitNames.ofSettings settings = .ok names)
    (h : modelsOf resolver (document.renameSchemas settings.schemaRenames).schemas.entries =
      .error fault) : Plan.make document settings = .error (.unwritable fault) := by
  simp only [Plan.make, hResolver, hNames, ApiDocument.models, h, Except.mapError, bind,
    Except.bind]

/-- A plan that fails because a name cannot be written fails for its models or for the own
segment of an endpoint. -/
theorem exists_of_make_eq_unwritable (hResolver : Resolver.ofSettings settings = .ok resolver)
    (hNames : TraitNames.ofSettings settings = .ok names)
    (h : Plan.make document settings = .error (.unwritable fault)) :
    modelsOf resolver (document.renameSchemas settings.schemaRenames).schemas.entries =
        .error fault ∨
      (document.renameSchemas settings.schemaRenames).OwnError names (.unwritable fault) := by
  rcases make_eq_error h with ⟨_, hOther⟩ | hModels | ⟨_, hOther⟩ | hTraits
  · cases hOther
  · obtain ⟨own, other, hOwn, hModels, hSame⟩ := hModels
    obtain rfl : resolver = own := Except.ok.inj (hResolver.symm.trans hOwn)
    obtain rfl : fault = other := PlanError.unwritable.inj hSame
    exact .inl hModels
  · cases hOther
  · obtain ⟨own, registry, hOwn, hTraits⟩ := hTraits
    obtain rfl : names = own := Except.ok.inj (hNames.symm.trans hOwn)
    exact .inr (ApiDocument.ownError_of_traits hTraits)

end Plan

namespace Resolver

/-- In the usual settings a name that is resolved has a type and a module, unless what was read
for its module or for its model begins with a digit. Then it has neither, the error names such a
text, and a plan with the schema ends with such an error. Nothing else about the name of a schema
ends a plan in this way. -/
theorem refused_only_for_digits {resolver : Resolver}
    (hResolver : Resolver.ofSettings .default = .ok resolver) :
    (∀ name found, resolver.resolve? name = some found →
      (∃ texts, resolver.texts? name = some texts) ∧
      ((∀ text, ¬resolver.Refuses name text) →
        (∃ type, resolver.typePath found = .ok type) ∧
          ∃ path, resolver.modulePath found = .ok path) ∧
      ((∃ text, resolver.Refuses name text) →
        ∃ fault, resolver.typePath found = .error fault ∧
          resolver.modulePath found = .error fault ∧ resolver.Refuses name fault.text)) ∧
    ∀ document settings names, Resolver.ofSettings settings = .ok resolver →
      TraitNames.ofSettings settings = .ok names →
        ((∃ entry ∈ (document.renameSchemas settings.schemaRenames).schemas.entries,
          ∃ text, resolver.Refuses (lastSegment entry.2.reference) text) →
            ∃ fault, Plan.make document settings = .error (.unwritable fault)) ∧
        ∀ fault, Plan.make document settings = .error (.unwritable fault) →
          (∃ entry ∈ (document.renameSchemas settings.schemaRenames).schemas.entries,
            resolver.Refuses (lastSegment entry.2.reference) fault.text) ∨
          (document.renameSchemas settings.schemaRenames).OwnError names (.unwritable fault) := by
  obtain rfl : .usual = resolver := Except.ok.inj (ofSettings_default.symm.trans hResolver)
  refine ⟨fun name found hFound => ?_, fun document settings names hOwn hNames => ?_⟩
  · obtain ⟨texts, hTexts, -⟩ := readFrom_of_resolve? hFound
    refine ⟨⟨texts, hTexts⟩, fun hNone => ?_, fun ⟨text, hText⟩ => ?_⟩
    · have hWritable := (writable_of_resolve?_iff hFound).2 hNone
      exact ⟨⟨_, typePath_eq_ok_iff.2 ⟨hWritable, rfl⟩⟩, _, modulePath_eq_ok_iff.2 ⟨hWritable, rfl⟩⟩
    · rcases exists_typePath_or_error usual found with ⟨hWritable, -⟩ | ⟨-, fault, hType, hPath⟩
      · exact absurd hText ((writable_of_resolve?_iff hFound).1 hWritable text)
      · exact ⟨fault, hType, hPath, refuses_of_typePath_eq_error hFound hType⟩
  · refine ⟨fun hRefused => ?_, fun fault h => ?_⟩
    · obtain ⟨fault, hModels⟩ := exists_modelsOf_eq_error_iff.2 hRefused
      exact ⟨fault, Plan.make_of_modelsOf_eq_error hOwn hNames hModels⟩
    · refine (Plan.exists_of_make_eq_unwritable hOwn hNames h).imp_left fun hModels => ?_
      obtain ⟨entry, hEntry, found, hFound, hType⟩ := exists_of_modelsOf_eq_error hModels
      exact ⟨entry, hEntry, refuses_of_typePath_eq_error hFound hType⟩

/-- A document with a schema whose model begins with a digit. -/
def refusedDocument : ApiDocument :=
  ApiDocument.empty.addSchema "Chassis_v1_0_0_1Foo" []

/-- One name that has a type, and one that is refused and ends the plan. -/
theorem plan_ends_at_1Foo :
    ∃ found refused fault planFault, ofSettings .default = .ok usual ∧
      TraitNames.ofSettings .default = .ok .usual ∧
      usual.resolve? "Chassis_v1_0_0_Port2" = some found ∧
      (∀ text, ¬usual.Refuses "Chassis_v1_0_0_Port2" text) ∧
      (∃ type, usual.typePath found = .ok type) ∧
      usual.resolve? "Chassis_v1_0_0_1Foo" = some refused ∧
      usual.Refuses "Chassis_v1_0_0_1Foo" "1Foo" ∧ usual.typePath refused = .error fault ∧
      Plan.make refusedDocument .default = .error (.unwritable planFault) ∧
      ((∃ entry ∈ (refusedDocument.renameSchemas Settings.default.schemaRenames).schemas.entries,
          usual.Refuses (lastSegment entry.2.reference) planFault.text) ∨
        (refusedDocument.renameSchemas Settings.default.schemaRenames).OwnError .usual
          (.unwritable planFault)) := by
  have hFound : usual.resolve? "Chassis_v1_0_0_Port2" =
      some ⟨[.ofLabel "Chassis", .ofLabel "v1_0_0"], .ofLabel "Port2"⟩ := by rfl
  have hRefused : usual.resolve? "Chassis_v1_0_0_1Foo" =
      some ⟨[.ofLabel "Chassis", .ofLabel "v1_0_0"], .ofLabel "1Foo"⟩ := by rfl
  have hTexts : usual.texts? "Chassis_v1_0_0_Port2" = some ⟨some "Chassis", "Port2"⟩ := by rfl
  have hNone : ∀ text, ¬usual.Refuses "Chassis_v1_0_0_Port2" text := by
    rintro text ⟨texts, hOther, hText, hDigit⟩
    obtain rfl : ⟨some "Chassis", "Port2"⟩ = texts := Option.some.inj (hTexts.symm.trans hOther)
    have hLetters : ∀ text ∈ (⟨some "Chassis", "Port2"⟩ : NameTexts).toList, ¬LedByDigit text := by
      decide
    exact hLetters text hText hDigit
  have hRefuses : usual.Refuses "Chassis_v1_0_0_1Foo" "1Foo" :=
    ⟨⟨some "Chassis", "1Foo"⟩, by rfl, by decide, by decide⟩
  have hEntries : (refusedDocument.renameSchemas Settings.default.schemaRenames).schemas.entries =
      [("Chassis_v1_0_0_1Foo", .ofName "Chassis_v1_0_0_1Foo" [])] := by rfl
  have hName : lastSegment (Schema.ofName "Chassis_v1_0_0_1Foo" []).reference =
      "Chassis_v1_0_0_1Foo" := by rfl
  have hEntry : ∃ entry ∈
      (refusedDocument.renameSchemas Settings.default.schemaRenames).schemas.entries,
        ∃ text, usual.Refuses (lastSegment entry.2.reference) text := by
    rw [hEntries]
    exact ⟨_, List.mem_singleton_self _, "1Foo", hName ▸ hRefuses⟩
  obtain ⟨hNames, hPlans⟩ := refused_only_for_digits ofSettings_default
  obtain ⟨fault, hType, -⟩ := (hNames _ _ hRefused).2.2 ⟨_, hRefuses⟩
  obtain ⟨hEnds, hCauses⟩ := hPlans refusedDocument .default .usual ofSettings_default
    TraitNames.ofSettings_default
  obtain ⟨planFault, hPlan⟩ := hEnds hEntry
  exact ⟨_, _, fault, planFault, ofSettings_default, TraitNames.ofSettings_default, hFound, hNone,
    ((hNames _ _ hFound).2.1 hNone).1, hRefused, hRefuses, hType, hPlan, hCauses planFault hPlan⟩

end Resolver

end CratePlan
