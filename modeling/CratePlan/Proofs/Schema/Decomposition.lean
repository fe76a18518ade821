import CratePlan.Proofs.Schema.Shape

/-!
# How a schema name is taken apart

A name of a shape is put together from parts, and the shape says which texts may be parts. This
could go in several ways, since a module may have underscores, and what stands between these may
look like a version. But a model has no underscore, and neither has a number of a version. So
the last underscore stands in front of the model, and the last four around the numbers of the
version: where the parts are is known from the end, and a name is taken apart just there.

## Main statements

* `UnversionedName.ofText?_eq_some_iff`, `VersionedName.ofText?_eq_some_iff`: the parts that a
  name is put together from are those that it is taken apart into.
* `UnversionedName.Spells.eq`, `VersionedName.Spells.eq`: there is one way to put it together.
* `VersionedName.Spells.toUnversioned`: the version can be counted to the module.
-/

namespace CratePlan

open Text

/-! ## Parts -/

/-- Letters and digits, at least one. -/
def IsPlainWord (text : String) : Prop :=
  text ≠ "" ∧ ∀ c ∈ text.toList, c.isAlphanum = true

/-- Digits, at least one. -/
def IsNumeral (text : String) : Prop :=
  text ≠ "" ∧ ∀ c ∈ text.toList, c.isDigit = true

/-- A letter or digit, and behind it letters, digits, underscores and hyphens. -/
def IsModuleLabel (text : String) : Prop :=
  ∃ first rest, text.toList = first :: rest ∧ first.isAlphanum = true ∧
    ∀ c ∈ rest, c.isAlphanum = true ∨ c = '_' ∨ c = '-'

/-- A small `v` and three numbers, with underscores between these. -/
def IsVersionLabel (text : String) : Prop :=
  ∃ major minor patch, text = "v" ++ major ++ "_" ++ minor ++ "_" ++ patch ∧
    IsNumeral major ∧ IsNumeral minor ∧ IsNumeral patch

/-- A name is a module, a version and a model, with underscores between these. -/
structure VersionedName.Spells (parts : VersionedName) (name : String) : Prop where
  text_eq : name = parts.module ++ "_" ++ parts.version ++ "_" ++ parts.model
  module : IsModuleLabel parts.module
  version : IsVersionLabel parts.version
  model : IsPlainWord parts.model

/-- A name is a module and a model, with an underscore between these. -/
structure UnversionedName.Spells (parts : UnversionedName) (name : String) : Prop where
  text_eq : name = parts.module ++ "_" ++ parts.model
  module : IsModuleLabel parts.module
  model : IsPlainWord parts.model

theorem isModelText_iff {text : String} : isModelText text.toList = true ↔ IsPlainWord text := by
  simp [isModelText, IsPlainWord, List.all_eq_true]

theorem isVersionNumber_iff {text : String} :
    isVersionNumber text.toList = true ↔ IsNumeral text := by
  simp [isVersionNumber, IsNumeral, List.all_eq_true]

theorem isModuleText_iff {text : String} :
    isModuleText text.toList = true ↔ IsModuleLabel text := by
  unfold isModuleText IsModuleLabel
  cases text.toList with
  | nil => simp
  | cons first rest => simp [List.all_eq_true, or_assoc]

/-- A version begins with its number behind a small `v`. -/
theorem isVersionStart_iff {text : List Char} :
    isVersionStart text = true ↔ ∃ major, text = 'v' :: major.toList ∧ IsNumeral major := by
  constructor
  · intro h
    unfold isVersionStart at h
    split at h
    case h_1 number =>
        refine ⟨String.ofList number, by rw [String.toList_ofList], ?_⟩
        rw [← isVersionNumber_iff, String.toList_ofList]
        exact h
    case h_2 => cases h
  · rintro ⟨major, rfl, hMajor⟩
    exact isVersionNumber_iff.2 hMajor

theorem isVersionText_iff {text : String} : IsVersionText text.toList ↔ IsVersionLabel text := by
  constructor
  · rintro ⟨start, minor, patch, hText, hStart, hMinor, hPatch⟩
    obtain ⟨major, rfl, hMajor⟩ := isVersionStart_iff.1 hStart
    refine ⟨major, String.ofList minor, String.ofList patch, ?_, hMajor, ?_, ?_⟩
    · rw [← String.toList_inj, hText]
      simp
    · rwa [← isVersionNumber_iff, String.toList_ofList]
    · rwa [← isVersionNumber_iff, String.toList_ofList]
  · rintro ⟨major, minor, patch, rfl, hMajor, hMinor, hPatch⟩
    refine ⟨'v' :: major.toList, minor.toList, patch.toList, by simp, ?_, ?_, ?_⟩
    · exact isVersionStart_iff.2 ⟨major, rfl, hMajor⟩
    · exact isVersionNumber_iff.2 hMinor
    · exact isVersionNumber_iff.2 hPatch

/-! ## Where the underscores are -/

theorem IsNumeral.isPlainWord {text : String} (h : IsNumeral text) : IsPlainWord text :=
  ⟨h.1, fun c hc => isAlphanum_of_small (.inr (h.2 c hc))⟩

/-- Letters and digits are no underscores. -/
theorem IsPlainWord.mark_not_mem {text : String} (h : IsPlainWord text) (mark : Char)
    (hMark : mark.isAlphanum = false) : mark ∉ text.toList := by
  intro hMem
  rw [h.2 mark hMem] at hMark
  cases hMark

/-- A module has letters, digits, underscores and hyphens. -/
theorem IsModuleLabel.isAlphanum_or_mark {text : String} (h : IsModuleLabel text) :
    ∀ c ∈ text.toList, c.isAlphanum = true ∨ c = '_' ∨ c = '-' := by
  obtain ⟨first, rest, hText, hFirst, hRest⟩ := h
  rw [hText]
  exact List.forall_mem_cons.2 ⟨.inl hFirst, hRest⟩

/-- A version has letters, digits and underscores. -/
theorem IsVersionLabel.isAlphanum_or_mark {text : String} (h : IsVersionLabel text) :
    ∀ c ∈ text.toList, c.isAlphanum = true ∨ c = '_' := by
  obtain ⟨major, minor, patch, rfl, hMajor, hMinor, hPatch⟩ := h
  have hLetter : 'v'.isAlphanum = true := rfl
  intro c hc
  simp only [String.toList_append, List.mem_append] at hc
  rcases hc with ((((hv | hMaj) | hMark) | hMin) | hMark) | hPat
  · simp at hv
    exact .inl (hv ▸ hLetter)
  · exact .inl (hMajor.isPlainWord.2 c hMaj)
  · exact .inr (by simpa using hMark)
  · exact .inl (hMinor.isPlainWord.2 c hMin)
  · exact .inr (by simpa using hMark)
  · exact .inl (hPatch.isPlainWord.2 c hPat)

namespace UnversionedName

/-- A name of the unversioned shape is taken apart into what it is put together from. -/
theorem ofText?_eq_some_iff {name : String} {parts : UnversionedName} :
    ofText? name = some parts ↔ parts.Spells name := by
  constructor
  · intro h
    obtain ⟨hText, hModule, hModel⟩ := text_eq h
    refine ⟨?_, isModuleText_iff.1 hModule, isModelText_iff.1 hModel⟩
    rw [← String.toList_inj, hText]
    simp
  · rintro ⟨rfl, hModule, hModel⟩
    have hText : (parts.module ++ "_" ++ parts.model).toList =
        parts.module.toList ++ '_' :: parts.model.toList := by simp
    rw [ofText?, hText, splitAtLast?_append (hModel.mark_not_mem '_' rfl)]
    simp [isModuleText_iff.2 hModule, isModelText_iff.2 hModel]

theorem parse_eq_ok_iff {name : String} {parts : UnversionedName} :
    parse name = .ok parts ↔ ofText? name = some parts := by
  unfold parse
  cases ofText? name <;> simp

/-- A name of the shape has no other marks than underscores and hyphens. -/
theorem Spells.isAlphanum_or_mark {name : String} {parts : UnversionedName}
    (h : parts.Spells name) : ∀ c ∈ name.toList, c.isAlphanum = true ∨ c = '_' ∨ c = '-' := by
  intro c hc
  rw [h.text_eq, String.toList_append, String.toList_append, List.mem_append,
    List.mem_append] at hc
  rcases hc with (hModule | hMark) | hModel
  · exact h.module.isAlphanum_or_mark c hModule
  · exact .inr (.inl (by simpa using hMark))
  · exact .inl (h.model.2 c hModel)

/-- A name of the unversioned shape is put together in one way. -/
theorem Spells.eq {name : String} {parts other : UnversionedName} (h : parts.Spells name)
    (hOther : other.Spells name) : parts = other :=
  Option.some.inj ((ofText?_eq_some_iff.2 h).symm.trans (ofText?_eq_some_iff.2 hOther))

end UnversionedName

namespace VersionedName

/-- A name of the versioned shape is taken apart into what it is put together from. -/
theorem ofText?_eq_some_iff {name : String} {parts : VersionedName} :
    ofText? name = some parts ↔ parts.Spells name := by
  constructor
  · intro h
    obtain ⟨hText, hModule, hVersion, hModel⟩ := text_eq h
    refine ⟨?_, isModuleText_iff.1 hModule, isVersionText_iff.1 hVersion, isModelText_iff.1 hModel⟩
    rw [← String.toList_inj, hText]
    simp
  · rintro ⟨rfl, hModule, ⟨major, minor, patch, hVersion, hMajor, hMinor, hPatch⟩, hModel⟩
    have hText : (parts.module ++ "_" ++ parts.version ++ "_" ++ parts.model).toList =
        (((parts.module.toList ++ '_' :: 'v' :: major.toList) ++ '_' :: minor.toList) ++
          '_' :: patch.toList) ++ '_' :: parts.model.toList := by
      rw [hVersion]
      simp
    have hStart : '_' ∉ 'v' :: major.toList := by
      have hMark := hMajor.isPlainWord.mark_not_mem '_' rfl
      simpa using hMark
    have hShape : (isModuleText parts.module.toList && isVersionStart ('v' :: major.toList) &&
        isVersionNumber minor.toList && isVersionNumber patch.toList &&
          isModelText parts.model.toList) = true := by
      simp [isModuleText_iff.2 hModule, isVersionStart_iff.2 ⟨major, rfl, hMajor⟩,
        isVersionNumber_iff.2 hMinor, isVersionNumber_iff.2 hPatch, isModelText_iff.2 hModel]
    have hParts : String.ofList ('v' :: major.toList ++ '_' :: (minor.toList ++ '_' ::
        patch.toList)) = parts.version := by
      rw [hVersion, ← String.toList_inj]
      simp
    have hModelSplit := hText ▸ splitAtLast?_append (hModel.mark_not_mem '_' rfl) _
    have hPatchSplit := splitAtLast?_append (hPatch.isPlainWord.mark_not_mem '_' rfl)
    have hMinorSplit := splitAtLast?_append (hMinor.isPlainWord.mark_not_mem '_' rfl)
    refine Option.bind_eq_some_iff.2 ⟨_, hModelSplit, Option.bind_eq_some_iff.2
      ⟨_, hPatchSplit _, Option.bind_eq_some_iff.2 ⟨_, hMinorSplit _, Option.bind_eq_some_iff.2
        ⟨_, splitAtLast?_append hStart _, Option.ite_none_right_eq_some.2 ⟨hShape, ?_⟩⟩⟩⟩⟩
    simp only [hParts, String.ofList_toList]

theorem parse_eq_ok_iff {name : String} {parts : VersionedName} :
    parse name = .ok parts ↔ ofText? name = some parts := by
  unfold parse
  cases ofText? name <;> simp

/-- A name of the versioned shape is put together in one way. -/
theorem Spells.eq {name : String} {parts other : VersionedName} (h : parts.Spells name)
    (hOther : other.Spells name) : parts = other :=
  Option.some.inj ((ofText?_eq_some_iff.2 h).symm.trans (ofText?_eq_some_iff.2 hOther))

/-- The parts of a versioned name without a version of its own. -/
def toUnversioned (parts : VersionedName) : UnversionedName :=
  ⟨parts.module ++ "_" ++ parts.version, parts.model⟩

/-- A name of the versioned shape has the other shape as well, with the version at the end of
the module. -/
theorem Spells.toUnversioned {name : String} {parts : VersionedName} (h : parts.Spells name) :
    parts.toUnversioned.Spells name := by
  obtain ⟨first, rest, hText, hFirst, hRest⟩ := h.module
  refine ⟨h.text_eq, ⟨first, rest ++ '_' :: parts.version.toList, ?_, hFirst, ?_⟩, h.model⟩
  · simp [VersionedName.toUnversioned, hText]
  · intro c hc
    rcases List.mem_append.1 hc with hModule | hVersion
    · exact hRest c hModule
    · rcases List.mem_cons.1 hVersion with rfl | hVersion
      · exact .inr (.inl rfl)
      · exact (h.version.isAlphanum_or_mark c hVersion).imp_right .inl

end VersionedName

/-! ## Names of either shape -/

namespace SchemaName

variable {name : String}

/-- A name that has the versioned shape is read in it. -/
theorem parse_eq_versioned_iff {parts : VersionedName} :
    parse name = .ok (.versioned parts) ↔ parts.Spells name := by
  rw [← VersionedName.ofText?_eq_some_iff, parse]
  cases VersionedName.ofText? name with
  | some other => simp
  | none => cases UnversionedName.parse name <;> simp [Except.map]

/-- A name is read in the unversioned shape if it has that shape only. -/
theorem parse_eq_unversioned_iff {parts : UnversionedName} :
    parse name = .ok (.unversioned parts) ↔
      VersionedName.ofText? name = none ∧ parts.Spells name := by
  rw [← UnversionedName.ofText?_eq_some_iff, ← UnversionedName.parse_eq_ok_iff, parse]
  cases VersionedName.ofText? name with
  | some other => simp
  | none => cases UnversionedName.parse name <;> simp [Except.map]

/-- A name that is not read has neither shape. -/
theorem ofText?_eq_none_of_parse {error : ShapeError} (h : parse name = .error error) :
    VersionedName.ofText? name = none ∧ UnversionedName.ofText? name = none := by
  rw [parse, UnversionedName.parse] at h
  cases hVersioned : VersionedName.ofText? name with
  | some parts => simp [hVersioned] at h
  | none =>
      cases hUnversioned : UnversionedName.ofText? name with
      | some parts => simp [hVersioned, hUnversioned, Except.map] at h
      | none => exact ⟨rfl, rfl⟩

end SchemaName

end CratePlan
