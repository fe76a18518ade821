import CratePlan.Proofs.Declaration
import CratePlan.Proofs.Pattern.Groups
import CratePlan.Proofs.Schema.Decomposition
import CratePlan.Proofs.Schema.Placement

/-!
# Schemas that share a type

A schema is placed by the words of its module and of its model, and words know neither
the size of letters nor the separators between them. So names that are spelled differently
may be placed alike, and then the schemas share a type.

For the usual settings it can be said how far this goes. A model is made of letters and
digits there, so the name of its type determines its words. And no convention loses a
letter or a digit: what is left of a name, without separators and in small letters, is
put together from the words of its match.

## Main statements

* `keeps_of_resolve?`: in the usual settings the words of a match keep the name.
* `typePath_eq_iff`: when two schemas share a type.
* `not_all_types_differ`: the names of two schemas that share one.
-/

namespace CratePlan

/-- The words of a match make up what is left of a name, and its model is made of letters
and digits. -/
structure SchemaMatch.Keeps (found : SchemaMatch) (name : String) : Prop where
  bare : (found.module.flatMap Identifier.words ++ found.model.words).flatMap String.toList =
    Words.bare name.toList
  model : ∃ label : String, label.toList.all Char.isAlphanum = true ∧
    found.model = Identifier.ofLabel label

/-- A model of letters and digits that can be written has words that begin with letters. -/
theorem SchemaMatch.isSpoken_model {found : SchemaMatch}
    (h : ∃ label : String, label.toList.all Char.isAlphanum = true ∧
      found.model = Identifier.ofLabel label)
    (hWritable : found.model.words.writable = true) : Words.IsSpoken found.model.words := by
  obtain ⟨label, hLabel, hModel⟩ := h
  rw [hModel] at hWritable ⊢
  exact Words.isSpoken_ofLabel hLabel hWritable

/-! ## The conventions -/

namespace Convention

/-- A name of the unversioned shape is kept by its match. -/
theorem keeps_of_unversioned {name : String} {found : SchemaMatch}
    (h : unversioned.match? name = some found) : found.Keeps name := by
  obtain ⟨parts, hParts, rfl⟩ := Option.map_eq_some_iff.1 h
  obtain ⟨hText, hModule, hModel⟩ := UnversionedName.text_eq hParts
  have hModel := all_isAlphanum_of_isModelText hModel
  have hMark : Words.isSeparator '_' = true := rfl
  have hModuleWords := Words.flatMap_ofLabel (ascii_of_isModuleText hModule)
  have hModelWords := Words.flatMap_ofLabel (ascii_of_all_isAlphanum hModel)
  refine ⟨?_, parts.model, hModel, rfl⟩
  rw [hText, Words.bare_append, Words.bare_cons_separator hMark, ← hModuleWords, ← hModelWords]
  simp [Identifier.ofLabel]

/-- A name of the versioned shape is kept by its match. -/
theorem keeps_of_versioned {name : String} {found : SchemaMatch}
    (h : versioned.match? name = some found) : found.Keeps name := by
  obtain ⟨parts, hParts, rfl⟩ := Option.map_eq_some_iff.1 h
  obtain ⟨hText, hModule, hVersion, hModel⟩ := VersionedName.text_eq hParts
  have hModel := all_isAlphanum_of_isModelText hModel
  have hMark : Words.isSeparator '_' = true := rfl
  have hModuleWords := Words.flatMap_ofLabel (ascii_of_isModuleText hModule)
  have hVersionWords := Words.flatMap_ofLabel hVersion.ascii
  have hModelWords := Words.flatMap_ofLabel (ascii_of_all_isAlphanum hModel)
  refine ⟨?_, parts.model, hModel, rfl⟩
  rw [hText, Words.bare_append, Words.bare_cons_separator hMark, Words.bare_append,
    Words.bare_cons_separator hMark, ← hModuleWords, ← hVersionWords, ← hModelWords]
  simp [VersionedName.modulePath, Identifier.ofLabel]

/-- The letters and digits of ASCII. -/
def lettersAndDigits : CharSet := ⟨[(48, 57), (65, 90), (97, 122)]⟩

theorem holds_lettersAndDigits (c : Char) : lettersAndDigits.holds c = c.isAlphanum := by
  rw [Bool.eq_iff_iff]
  simp only [lettersAndDigits, CharSet.holds, Text.CodeRanges.holds_cons,
    Text.CodeRanges.holds_nil, Bool.or_false, Bool.or_eq_true, Bool.and_eq_true,
    decide_eq_true_eq, Char.isAlphanum, Char.isAlpha, Char.isUpper, Char.isLower, Char.isDigit,
    ge_iff_le, UInt32.le_iff_toNat_le]
  have hCode : c.toNat = c.val.toNat := rfl
  have hCapitals : 'A'.val.toNat = 65 ∧ 'Z'.val.toNat = 90 := ⟨rfl, rfl⟩
  have hSmall : 'a'.val.toNat = 97 ∧ 'z'.val.toNat = 122 := ⟨rfl, rfl⟩
  have hDigits : '0'.val.toNat = 48 ∧ '9'.val.toNat = 57 := ⟨rfl, rfl⟩
  omega

/-- Letters and digits, at least one, read a word. -/
theorem readsAll_word :
    Pattern.ReadsAll (.repeated 1 none true (.one lettersAndDigits)) fun text =>
      IsPlainWord (String.ofList text) := by
  refine (Pattern.readsAll_repeated 1 true lettersAndDigits).congr fun text => ?_
  have hSome : 1 ≤ text.length ↔ String.ofList text ≠ "" := by
    rw [Nat.one_le_iff_ne_zero, Ne, List.length_eq_zero_iff, Ne, String.ofList_eq_empty_iff]
  rw [hSome, IsPlainWord, List.all_eq_true, String.toList_ofList]
  simp only [holds_lettersAndDigits]

/-- Letters and digits behind a text, and nothing else. -/
def wordBehind (start : String) : Pattern :=
  let word : Pattern :=
    .group 1 (some modelGroup) (.repeated 1 none true (.one lettersAndDigits))
  .seq (.boundary .textStart) (.seq (.literal start.toList) (.seq word (.boundary .textEnd)))

/-- A word is found in a name exactly if the name is the text and the word. -/
theorem capture?_wordBehind {start name word : String} :
    (wordBehind start).capture? modelGroup name = some word ↔
      name = start ++ word ∧ IsPlainWord word := by
  have hFinds := ((Pattern.takesParts_group readsAll_word modelGroup).behind start).finds_start
  have hOne : ∀ part other, (∃ back, name = start ++ back ∧ back = part ∧ IsPlainWord part) →
      (∃ back, name = start ++ back ∧ back = other ∧ IsPlainWord other) → part = other := by
    rintro part other ⟨_, hPart, rfl, -⟩ ⟨_, hOther, rfl, -⟩
    exact (String.append_right_inj start).1 (hPart.symm.trans hOther)
  rw [wordBehind, hFinds.capture?_eq_some_iff hOne]
  simp

/-- A name of a fixed module is kept by its match, if the text that its names begin with
spells the module. -/
theorem keeps_of_wordBehind {start module name : String} {found : SchemaMatch}
    (hStart : (Words.ofLabel module).flatMap String.toList = Words.bare start.toList)
    (h : (fixed (wordBehind start) (Identifier.ofLabel module)).match? name = some found) :
    found.Keeps name := by
  obtain ⟨model, hCapture, rfl⟩ := Option.map_eq_some_iff.1 h
  obtain ⟨rfl, hModel⟩ := capture?_wordBehind.1 hCapture
  have hModel : model.toList.all Char.isAlphanum = true := List.all_eq_true.2 hModel.2
  have hModelWords := Words.flatMap_ofLabel (ascii_of_all_isAlphanum hModel)
  refine ⟨?_, model, hModel, rfl⟩
  rw [String.toList_append, Words.bare_append, ← hStart, ← hModelWords]
  simp [Identifier.ofLabel]

end Convention

namespace Resolver

open Convention

/-- The resolver of the usual settings. -/
def usual : Resolver :=
  ⟨[.versioned, .fixed (wordBehind "Redfish") (.ofLabel "redfish"),
    .fixed (wordBehind "odata-v4_") (.ofLabel "odata_v4"), .unversioned], .ofLabel "models"⟩

theorem ofSettings_default : Resolver.ofSettings .default = .ok .usual := by
  decide +kernel

/-- In the usual settings the words of a match keep the name. -/
theorem keeps_of_resolve? {name : String} {found : SchemaMatch}
    (h : Resolver.usual.resolve? name = some found) : found.Keeps name := by
  obtain ⟨convention, hConvention, hFound⟩ := List.exists_of_findSome?_eq_some h
  simp only [usual, List.mem_cons, List.not_mem_nil, or_false] at hConvention
  rcases hConvention with rfl | rfl | rfl | rfl
  · exact keeps_of_versioned hFound
  · exact keeps_of_wordBehind (by decide) hFound
  · exact keeps_of_wordBehind (by decide) hFound
  · exact keeps_of_unversioned hFound

/-- The path to a match determines the words of its modules. -/
theorem parentPath_inj {resolver : Resolver} {found other : SchemaMatch} :
    resolver.parentPath found = resolver.parentPath other ↔
      found.module.map Identifier.words = other.module.map Identifier.words := by
  simp [parentPath, ModulePath.foldl_append]

/-- In the usual settings two schemas share a type exactly when the words of their modules
and of their models are the same, and then their names differ in nothing but the size of
letters and the separators. -/
theorem typePath_eq_iff {resolver : Resolver} {name otherName : String}
    {found other : SchemaMatch} {type otherType : TypePath}
    (hResolver : Resolver.ofSettings .default = .ok resolver)
    (hFound : resolver.resolve? name = some found)
    (hOther : resolver.resolve? otherName = some other)
    (hType : resolver.typePath found = .ok type)
    (hOtherType : resolver.typePath other = .ok otherType) :
    (type = otherType ↔ found.module.map Identifier.words = other.module.map Identifier.words ∧
      found.model.words = other.model.words) ∧
    (type = otherType → Words.bare name.toList = Words.bare otherName.toList) := by
  obtain rfl : .usual = resolver := Except.ok.inj (ofSettings_default.symm.trans hResolver)
  have hKeeps := keeps_of_resolve? hFound
  have hOtherKeeps := keeps_of_resolve? hOther
  obtain ⟨hWritable, hTypeEq⟩ := typePath_eq_ok_iff.1 hType
  obtain ⟨hOtherWritable, hOtherTypeEq⟩ := typePath_eq_ok_iff.1 hOtherType
  have hModels : String.ofList (found.model.words.spelled .pascal) =
      String.ofList (other.model.words.spelled .pascal) ↔
        found.model.words = other.model.words := by
    refine ⟨fun h => ?_, fun h => by rw [h]⟩
    exact Words.spelled_pascal_inj (SchemaMatch.isSpoken_model hKeeps.model hWritable.model)
      (SchemaMatch.isSpoken_model hOtherKeeps.model hOtherWritable.model)
      (String.ofList_injective h)
  have hTypes : type = otherType ↔
      found.module.map Identifier.words = other.module.map Identifier.words ∧
        found.model.words = other.model.words := by
    rw [hTypeEq, hOtherTypeEq, TypePath.mk.injEq, parentPath_inj, hModels]
  refine ⟨hTypes, fun hSame => ?_⟩
  obtain ⟨hModules, hModel⟩ := hTypes.1 hSame
  have hModules :
      found.module.flatMap Identifier.words = other.module.flatMap Identifier.words := by
    rw [List.flatMap_def, List.flatMap_def, hModules]
  rw [← hKeeps.bare, ← hOtherKeeps.bare, hModules, hModel]

theorem resolve_ports :
    Resolver.usual.resolve? "RedfishPort" = some ⟨[.ofLabel "redfish"], .ofLabel "Port"⟩ ∧
      Resolver.usual.resolve? "Redfish_v1_0_0_Port" =
        some ⟨[.ofLabel "Redfish", .ofLabel "v1_0_0"], .ofLabel "Port"⟩ := by
  decide +kernel

theorem types_of_ports_differ :
    ∃ found other type otherType, Resolver.ofSettings .default = .ok .usual ∧
      Resolver.usual.resolve? "RedfishPort" = some found ∧
      Resolver.usual.resolve? "Redfish_v1_0_0_Port" = some other ∧
      Resolver.usual.typePath found = .ok type ∧ Resolver.usual.typePath other = .ok otherType ∧
      type ≠ otherType := by
  obtain ⟨hFound, hOther⟩ := resolve_ports
  obtain ⟨hSame, -⟩ := typePath_eq_iff ofSettings_default hFound hOther rfl rfl
  refine ⟨_, _, _, _, ofSettings_default, hFound, hOther, rfl, rfl, fun h => ?_⟩
  have hModules := (hSame.1 h).1
  revert hModules
  decide +kernel

theorem resolve_spelledApart :
    Resolver.usual.resolve? "A-B_C" = some ⟨[.ofLabel "A-B"], .ofLabel "C"⟩ ∧
      Resolver.usual.resolve? "A_B_C" = some ⟨[.ofLabel "A_B"], .ofLabel "C"⟩ := by
  decide +kernel

/-- Not all schemas have types of their own: words do not know which separators stood
between them. -/
theorem not_all_types_differ :
    ¬∀ (resolver : Resolver) (name otherName : String) (found other : SchemaMatch)
      (type otherType : TypePath), Resolver.ofSettings .default = .ok resolver →
        name ≠ otherName → resolver.resolve? name = some found →
          resolver.resolve? otherName = some other → resolver.typePath found = .ok type →
            resolver.typePath other = .ok otherType → type ≠ otherType := by
  intro hAll
  obtain ⟨hFound, hOther⟩ := resolve_spelledApart
  exact hAll _ _ _ _ _ _ _ ofSettings_default (by decide) hFound hOther rfl rfl rfl

end Resolver

end CratePlan
