import CratePlan.Proofs.Respelling
import CratePlan.Proofs.Schema.Agreement

/-!
# What conventions read in a name

A convention that recognises a name reads the model in it, and unless it has a module of its
own, the module too. What it reads decides two things.

The first is what a type says about the module that defines it. That module is named after the
model, and other modules export into the same parent, so their types must not be called alike.
A type is called by the words of the model with nothing between them, and they are known from it
only if each of them begins with a letter. This they do if the model was read as letters and
digits, which the two shapes of names ask for and a pattern may not.

The second is whether there is a type at all. In the usual settings nothing but letters, digits,
underscores and hyphens is read, with a letter or digit in front, and whatever comes behind, such
a text has words that can be written unless it begins with a digit. A version begins with a
letter, and so do the modules that are not read. So a match can be written unless what was read
for its module or for its model begins with a digit, and if it cannot, the error says so.

## Main statements

* `Resolver.types_tell_leaves_apart`: types and the modules that define them go together.
* `IsModuleLabel.writable_iff`: which texts can be written.
* `SchemaMatch.ReadFrom.writable_iff`: when a match can be written, by what was read for it.
* `Resolver.readFrom_of_resolve?`: what is read in the usual settings.
* `Resolver.writable_of_resolve?_iff`: which matches can be written there.
-/

namespace CratePlan

open Text Outcome

/-- What a convention reads in a name. -/
structure NameTexts where
  /-- The module, unless the convention has one of its own. -/
  module : Option String
  model : String

/-- The texts that are read, the module first. -/
def NameTexts.toList (texts : NameTexts) : List String :=
  texts.module.toList ++ [texts.model]

namespace Convention

variable {convention : Convention} {name : String} {found : SchemaMatch}

/-- What a convention reads in a name, if it recognises it. -/
def texts? (convention : Convention) (name : String) : Option NameTexts :=
  match convention with
  | versioned => (VersionedName.ofText? name).map fun parts => ⟨some parts.module, parts.model⟩
  | fixed pattern _ => (pattern.capture? modelGroup name).map fun model => ⟨none, model⟩
  | unversioned => (UnversionedName.ofText? name).map fun parts => ⟨some parts.module, parts.model⟩

theorem texts?_eq_none_iff : convention.texts? name = none ↔ convention.match? name = none := by
  cases convention <;> simp [texts?, match?]

/-- The model of a match is what was read for it. -/
theorem exists_texts?_of_match? (h : convention.match? name = some found) :
    ∃ texts, convention.texts? name = some texts ∧ found.model = .ofLabel texts.model := by
  cases convention with
  | versioned =>
      obtain ⟨parts, hParts, rfl⟩ := Option.map_eq_some_iff.1 h
      exact ⟨⟨some parts.module, parts.model⟩, by rw [texts?, hParts, Option.map_some], rfl⟩
  | fixed pattern module =>
      obtain ⟨model, hModel, rfl⟩ := Option.map_eq_some_iff.1 h
      exact ⟨⟨none, model⟩, by rw [texts?, hModel, Option.map_some], rfl⟩
  | unversioned =>
      obtain ⟨parts, hParts, rfl⟩ := Option.map_eq_some_iff.1 h
      exact ⟨⟨some parts.module, parts.model⟩, by rw [texts?, hParts, Option.map_some], rfl⟩

/-! ## Types and the modules that define them -/

/-- What is read for the model in a name has letters and digits only. -/
def ReadsPlainModel (convention : Convention) (name : String) : Prop :=
  ∀ texts, convention.texts? name = some texts → ∀ c ∈ texts.model.toList, c.isAlphanum = true

/-- The two shapes of names have models of letters and digits. -/
theorem readsPlainModel_of_shape
    (h : ∀ pattern module, convention = .fixed pattern module → convention.ReadsPlainModel name) :
    convention.ReadsPlainModel name := by
  cases convention with
  | fixed pattern module => exact h pattern module rfl
  | versioned =>
      intro texts hTexts
      obtain ⟨parts, hParts, rfl⟩ := Option.map_eq_some_iff.1 hTexts
      exact (VersionedName.ofText?_eq_some_iff.1 hParts).model.2
  | unversioned =>
      intro texts hTexts
      obtain ⟨parts, hParts, rfl⟩ := Option.map_eq_some_iff.1 hTexts
      exact (UnversionedName.ofText?_eq_some_iff.1 hParts).model.2

/-- So have the patterns of the usual settings. -/
theorem readsPlainModel_wordBehind (start name : String) (module : Identifier) :
    (fixed (wordBehind start) module).ReadsPlainModel name := by
  intro texts hTexts
  obtain ⟨word, hWord, rfl⟩ := Option.map_eq_some_iff.1 hTexts
  exact (capture?_wordBehind.1 hWord).2.2

/-- Such a model begins each of its words with a letter, if it can be written. -/
theorem ReadsPlainModel.isSpoken (h : convention.ReadsPlainModel name)
    (hFound : convention.match? name = some found) (hWritable : found.Writable) :
    Words.IsSpoken found.model.words := by
  obtain ⟨texts, hTexts, hModel⟩ := exists_texts?_of_match? hFound
  have hPlain : texts.model.toList.all Char.isAlphanum = true := List.all_eq_true.2 (h texts hTexts)
  exact SchemaMatch.isSpoken_model ⟨texts.model, hPlain, hModel⟩ hWritable.model

end Convention

namespace Resolver

/-- Two matches that can be written have the same type exactly if they have the same module, if
their models were read as letters and digits: so two modules below one parent never give it
types of the same name. -/
theorem types_tell_leaves_apart {resolver : Resolver} {convention other : Convention}
    {name otherName : String} {found otherFound : SchemaMatch} {path otherPath : ModulePath}
    (hFound : convention.match? name = some found)
    (hOtherFound : other.match? otherName = some otherFound)
    (hPlain : ∀ pattern module, convention = .fixed pattern module →
      convention.ReadsPlainModel name)
    (hOtherPlain : ∀ pattern module, other = .fixed pattern module →
      other.ReadsPlainModel otherName)
    (hPath : resolver.modulePath found = .ok path)
    (hOtherPath : resolver.modulePath otherFound = .ok otherPath) :
    ∃ type otherType, resolver.typePath found = .ok type ∧
      resolver.typePath otherFound = .ok otherType ∧ (type = otherType ↔ path = otherPath) ∧
      ∀ parent leaf otherLeaf, path = parent.append leaf → otherPath = parent.append otherLeaf →
        type.path = parent ∧ otherType.path = parent ∧
          (type.name = otherType.name ↔ leaf = otherLeaf) := by
  obtain ⟨hWritable, rfl⟩ := modulePath_eq_ok_iff.1 hPath
  obtain ⟨hOtherWritable, rfl⟩ := modulePath_eq_ok_iff.1 hOtherPath
  have hSpoken := (Convention.readsPlainModel_of_shape hPlain).isSpoken hFound hWritable
  have hOtherSpoken :=
    (Convention.readsPlainModel_of_shape hOtherPlain).isSpoken hOtherFound hOtherWritable
  have hNames : String.ofList (found.model.words.spelled .pascal) =
      String.ofList (otherFound.model.words.spelled .pascal) ↔
        found.model.words = otherFound.model.words := by
    refine ⟨fun hSame => ?_, fun hSame => by rw [hSame]⟩
    exact Words.spelled_pascal_inj hSpoken hOtherSpoken (String.ofList_injective hSame)
  refine ⟨_, _, typePath_eq_ok_iff.2 ⟨hWritable, rfl⟩, typePath_eq_ok_iff.2 ⟨hOtherWritable, rfl⟩,
    ?_, fun parent leaf otherLeaf hLeaf hOtherLeaf => ?_⟩
  · rw [TypePath.mk.injEq, hNames, ModulePath.append_inj]
  · obtain ⟨hParent, rfl⟩ := ModulePath.append_inj.1 hLeaf
    obtain ⟨hOtherParent, rfl⟩ := ModulePath.append_inj.1 hOtherLeaf
    exact ⟨hParent, hOtherParent, hNames⟩

open Convention in
/-- Two modules of one module, which differ in the place where a word ends. -/
theorem leaves_of_a_apart :
    ∃ found otherFound parent type otherType,
      (fixed (wordBehind "Redfish") (.ofLabel "a")).match? "RedfishB1C" = some found ∧
      unversioned.match? "A_B1c" = some otherFound ∧
      Resolver.usual.modulePath found = .ok (parent.append ["b1", "c"]) ∧
      Resolver.usual.modulePath otherFound = .ok (parent.append ["b1c"]) ∧
      Resolver.usual.typePath found = .ok type ∧
      Resolver.usual.typePath otherFound = .ok otherType ∧
      type.path = parent ∧ otherType.path = parent ∧ type.name ≠ otherType.name := by
  have hWord : IsPlainWord "B1C" := isModelText_iff.1 (by rfl)
  have hFound : (fixed (wordBehind "Redfish") (.ofLabel "a")).match? "RedfishB1C" =
      some ⟨[.ofLabel "a"], .ofLabel "B1C"⟩ := match?_wordBehind_iff.2 ⟨"B1C", rfl, hWord, rfl⟩
  have hOther : unversioned.match? "A_B1c" = some ⟨[.ofLabel "A"], .ofLabel "B1c"⟩ := by rfl
  have hPath : Resolver.usual.modulePath ⟨[.ofLabel "a"], .ofLabel "B1C"⟩ =
      .ok ((ModulePath.ofCrate [["models"], ["a"]]).append ["b1", "c"]) := by rfl
  have hOtherPath : Resolver.usual.modulePath ⟨[.ofLabel "A"], .ofLabel "B1c"⟩ =
      .ok ((ModulePath.ofCrate [["models"], ["a"]]).append ["b1c"]) := by rfl
  obtain ⟨type, otherType, hType, hOtherType, -, hLeaves⟩ := types_tell_leaves_apart hFound hOther
    (fun _ _ _ => readsPlainModel_wordBehind _ _ _) (fun _ _ h => nomatch h) hPath hOtherPath
  obtain ⟨hParent, hOtherParent, hNames⟩ := hLeaves _ _ _ rfl rfl
  exact ⟨_, _, _, type, otherType, hFound, hOther, hPath, hOtherPath, hType, hOtherType, hParent,
    hOtherParent, fun hSame => absurd (hNames.1 hSame) (by decide)⟩

end Resolver

/-! ## Texts that can be written -/

/-- The text begins with a digit. -/
def LedByDigit (text : String) : Prop :=
  text.toList.head?.any Char.isDigit = true

instance (text : String) : Decidable (LedByDigit text) :=
  inferInstanceAs (Decidable (_ = _))

/-- A text that may stand for a module can be written unless it begins with a digit. -/
theorem IsModuleLabel.writable_iff {text : String} (h : IsModuleLabel text) :
    (Words.ofLabel text).writable = true ↔ ¬LedByDigit text := by
  obtain ⟨first, rest, hText, hFirst, hRest⟩ := h
  have hWritable := Words.writable_ofLabel_iff hFirst hRest
  rw [← hText, String.ofList_toList] at hWritable
  rw [hWritable, LedByDigit, hText, List.head?_cons, Option.any_some, Bool.not_eq_true]

/-- The identifier of a text that may stand for a module is rendered unless the text begins with a
digit. -/
theorem IsModuleLabel.exists_render_iff {text : String} (h : IsModuleLabel text)
    (style : CaseStyle) :
    (∃ rendered, (Identifier.ofLabel text).render style = .ok rendered) ↔ ¬LedByDigit text := by
  rw [← h.writable_iff]
  constructor
  · intro hSome
    obtain ⟨rendered, hRendered⟩ := hSome
    exact (Identifier.render_eq_ok_iff.1 hRendered).1
  · intro hWritable
    exact ⟨_, Identifier.render_eq_ok_iff.2 ⟨hWritable, rfl⟩⟩

/-- A text of letters and digits may stand for a module. -/
theorem IsPlainWord.isModuleLabel {text : String} (h : IsPlainWord text) : IsModuleLabel text := by
  have hNonempty : text.toList ≠ [] := fun hNil => h.1 (String.toList_eq_nil_iff.1 hNil)
  obtain ⟨first, rest, hText⟩ := List.exists_cons_of_ne_nil hNonempty
  have hPlain := h.2
  rw [hText, List.forall_mem_cons] at hPlain
  exact ⟨first, rest, hText, hPlain.1, fun c hc => .inl (hPlain.2 c hc)⟩

/-- A version can be written, for it begins with a letter. -/
theorem IsVersionLabel.writable {text : String} (h : IsVersionLabel text) :
    (Words.ofLabel text).writable = true := by
  have hMarks := h.isAlphanum_or_mark
  obtain ⟨major, minor, patch, rfl, -⟩ := h
  have hText : ("v" ++ major ++ "_" ++ minor ++ "_" ++ patch).toList =
      'v' :: (major ++ "_" ++ minor ++ "_" ++ patch).toList := by simp
  rw [hText, List.forall_mem_cons] at hMarks
  have hLabel : IsModuleLabel ("v" ++ major ++ "_" ++ minor ++ "_" ++ patch) :=
    ⟨'v', _, hText, rfl, fun c hc => (hMarks.2 c hc).imp_right .inl⟩
  rw [hLabel.writable_iff, LedByDigit, hText, List.head?_cons, Option.any_some]
  decide

/-! ## Matches that can be written -/

namespace SchemaMatch

/-- The names that must be written for a match. -/
def names (found : SchemaMatch) : List Identifier :=
  found.module ++ [found.model]

theorem writable_iff_names {found : SchemaMatch} :
    found.Writable ↔ ∀ identifier ∈ found.names, identifier.words.writable = true := by
  rw [names, List.forall_mem_append, List.forall_mem_singleton]
  exact ⟨fun h => ⟨h.modules, h.model⟩, fun h => ⟨h.1, h.2⟩⟩

/-- The names of a match are read from texts that may stand for modules, or can be written
anyway. -/
structure ReadFrom (found : SchemaMatch) (texts : NameTexts) : Prop where
  label : ∀ text ∈ texts.toList, IsModuleLabel text
  named : ∀ text ∈ texts.toList, Identifier.ofLabel text ∈ found.names
  others : ∀ identifier ∈ found.names,
    identifier.words.writable = true ∨ ∃ text ∈ texts.toList, identifier = .ofLabel text

variable {found : SchemaMatch} {texts : NameTexts}

/-- A match can be written exactly if no text that was read for it begins with a digit. -/
theorem ReadFrom.writable_iff (h : found.ReadFrom texts) :
    found.Writable ↔ ∀ text ∈ texts.toList, ¬LedByDigit text := by
  rw [writable_iff_names]
  constructor
  · intro hNames text hText
    exact (h.label text hText).writable_iff.1 (hNames _ (h.named text hText))
  · intro hTexts identifier hIdentifier
    rcases h.others identifier hIdentifier with hWritable | ⟨text, hText, rfl⟩
    · exact hWritable
    · exact (h.label text hText).writable_iff.2 (hTexts text hText)

/-- A name that cannot be written was read from a text that begins with a digit. -/
theorem ReadFrom.ledByDigit (h : found.ReadFrom texts) {identifier : Identifier}
    (hMem : identifier ∈ found.names) (hFails : identifier.words.writable = false) :
    identifier.label ∈ texts.toList ∧ LedByDigit identifier.label := by
  rcases h.others identifier hMem with hWritable | ⟨text, hText, rfl⟩
  · rw [hFails] at hWritable
    cases hWritable
  · refine ⟨hText, Decidable.not_not.1 fun hLetter => ?_⟩
    have hWritable := (h.label text hText).writable_iff.2 hLetter
    rw [Identifier.ofLabel, hWritable] at hFails
    cases hFails

end SchemaMatch

theorem VersionedName.Spells.readFrom {name : String} {parts : VersionedName}
    (h : parts.Spells name) :
    SchemaMatch.ReadFrom ⟨parts.modulePath, .ofLabel parts.model⟩
      ⟨some parts.module, parts.model⟩ := by
  have hVersion : (Identifier.ofLabel parts.version).words.writable = true := h.version.writable
  constructor <;> simp [NameTexts.toList, SchemaMatch.names, VersionedName.modulePath, h.module,
    h.model.isModuleLabel, hVersion]

theorem UnversionedName.Spells.readFrom {name : String} {parts : UnversionedName}
    (h : parts.Spells name) :
    SchemaMatch.ReadFrom ⟨[.ofLabel parts.module], .ofLabel parts.model⟩
      ⟨some parts.module, parts.model⟩ := by
  constructor <;> simp [NameTexts.toList, SchemaMatch.names, h.module, h.model.isModuleLabel]

theorem IsPlainWord.readFrom {word : String} (h : IsPlainWord word) {module : Identifier}
    (hModule : module.words.writable = true) :
    SchemaMatch.ReadFrom ⟨[module], .ofLabel word⟩ ⟨none, word⟩ := by
  constructor <;> simp [NameTexts.toList, SchemaMatch.names, h.isModuleLabel, hModule]

/-! ## Names that are refused -/

theorem Identifier.render_eq_error_iff {identifier : Identifier} {style : CaseStyle}
    {fault : CaseError} :
    identifier.render style = .error fault ↔
      identifier.words.writable = false ∧ fault = ⟨style, identifier.label⟩ := by
  unfold Identifier.render
  split
  case isTrue h => simp [h]
  case isFalse h => simpa [h] using eq_comm

namespace Resolver

variable {resolver : Resolver} {found : SchemaMatch} {fault : CaseError}

/-- A module on the way that cannot be written is reported. -/
theorem exists_of_forIn_render_eq_error {components : List Identifier}
    (h : (forIn components PUnit.unit fun component _ => do
      let _ ← component.render .snake
      pure (ForInStep.yield PUnit.unit) : Except CaseError PUnit) = .error fault) :
    ∃ component ∈ components, component.render .snake = .error fault := by
  induction components with
  | nil => cases h
  | cons component rest ih =>
      rw [List.forIn_cons, bind_eq_error_iff] at h
      rcases h with hFirst | ⟨step, hStep, hRest⟩
      · rcases bind_eq_error_iff.1 hFirst with hRender | ⟨text, -, hPure⟩
        · exact ⟨component, List.mem_cons_self .., hRender⟩
        · cases hPure
      · obtain ⟨text, -, hNext⟩ := bind_eq_ok_iff.1 hStep
        cases hNext
        obtain ⟨other, hOther, hFault⟩ := ih hRest
        exact ⟨other, List.mem_cons_of_mem _ hOther, hFault⟩

/-- A match without a type has a name that cannot be written, and this is reported. -/
theorem exists_of_typePath_eq_error (h : resolver.typePath found = .error fault) :
    ∃ identifier ∈ found.names, identifier.words.writable = false ∧
      fault.text = identifier.label := by
  rw [typePath, bind_eq_error_iff] at h
  simp only [SchemaMatch.names, List.mem_append, List.mem_singleton]
  rcases h with hModules | ⟨-, -, hModel⟩
  · obtain ⟨component, hMem, hFault⟩ := exists_of_forIn_render_eq_error hModules
    obtain ⟨hFails, rfl⟩ := Identifier.render_eq_error_iff.1 hFault
    exact ⟨component, .inl hMem, hFails, rfl⟩
  · obtain ⟨hFails, rfl⟩ := Identifier.render_eq_error_iff.1 (map_eq_error_iff.1 hModel)
    exact ⟨found.model, .inr rfl, hFails, rfl⟩

/-- Without a type there is no module that defines it, for the same reason. -/
theorem modulePath_of_typePath_eq_error (h : resolver.typePath found = .error fault) :
    resolver.modulePath found = .error fault := by
  rw [modulePath, h]
  rfl

/-- A match has a type and a module, or neither for one and the same reason. -/
theorem exists_typePath_or_error (resolver : Resolver) (found : SchemaMatch) :
    (found.Writable ∧ (∃ type, resolver.typePath found = .ok type) ∧
      ∃ path, resolver.modulePath found = .ok path) ∨
    (¬found.Writable ∧ ∃ fault, resolver.typePath found = .error fault ∧
      resolver.modulePath found = .error fault) := by
  cases hType : resolver.typePath found with
  | ok type =>
      have hWritable := (typePath_eq_ok_iff.1 hType).1
      exact .inl ⟨hWritable, ⟨type, rfl⟩, _, modulePath_eq_ok_iff.2 ⟨hWritable, rfl⟩⟩
  | error fault =>
      refine .inr ⟨fun hWritable => ?_, fault, rfl, modulePath_of_typePath_eq_error hType⟩
      rw [typePath_eq_ok_iff.2 ⟨hWritable, rfl⟩] at hType
      cases hType

/-! ## The usual settings -/

/-- What the convention that recognises a name reads in it. -/
def texts? (resolver : Resolver) (name : String) : Option NameTexts :=
  resolver.conventions.findSome? (·.texts? name)

variable {name : String}

/-- A name is matched and read by one convention, the first that recognises it. -/
theorem exists_convention_of_resolve? (h : resolver.resolve? name = some found) :
    ∃ convention ∈ resolver.conventions, convention.match? name = some found ∧
      resolver.texts? name = convention.texts? name := by
  obtain ⟨before, convention, after, hAll, hFound, hBefore⟩ := List.findSome?_eq_some_iff.1 h
  refine ⟨convention, by simp [hAll], hFound, ?_⟩
  obtain ⟨texts, hTexts, -⟩ := Convention.exists_texts?_of_match? hFound
  have hNone : before.findSome? (·.texts? name) = none :=
    List.findSome?_eq_none_iff.2 fun other hOther =>
      Convention.texts?_eq_none_iff.2 (hBefore other hOther)
  rw [texts?, hAll, List.findSome?_append, hNone, Option.none_or, List.findSome?_cons, hTexts]

/-- Only names that are resolved are read. -/
theorem exists_resolve?_of_texts? {texts : NameTexts} (h : resolver.texts? name = some texts) :
    ∃ found, resolver.resolve? name = some found := by
  refine Option.ne_none_iff_exists'.1 fun hNone => ?_
  have hUnread : resolver.texts? name = none := List.findSome?_eq_none_iff.2 fun convention hMem =>
    Convention.texts?_eq_none_iff.2 (List.findSome?_eq_none_iff.1 hNone convention hMem)
  rw [hUnread] at h
  cases h

/-- A pattern for a word reads the model of its match, if its module can be written. -/
theorem readFrom_of_wordBehind {start : String} {module : Identifier}
    (hModule : module.words.writable = true)
    (h : (Convention.fixed (Convention.wordBehind start) module).match? name = some found) :
    ∃ texts, (Convention.fixed (Convention.wordBehind start) module).texts? name = some texts ∧
      found.ReadFrom texts := by
  obtain ⟨word, hWord, rfl⟩ := Option.map_eq_some_iff.1 h
  refine ⟨⟨none, word⟩, by rw [Convention.texts?, hWord, Option.map_some], ?_⟩
  exact (Convention.capture?_wordBehind.1 hWord).2.readFrom hModule

/-- In the usual settings a match is written as it was read, but for its version and for modules
that can be written. -/
theorem readFrom_of_resolve? (h : usual.resolve? name = some found) :
    ∃ texts, usual.texts? name = some texts ∧ found.ReadFrom texts := by
  obtain ⟨convention, hMem, hFound, hTexts⟩ := exists_convention_of_resolve? h
  rw [hTexts]
  simp only [usual, List.mem_cons, List.not_mem_nil, or_false] at hMem
  rcases hMem with rfl | rfl | rfl | rfl
  · obtain ⟨parts, hParts, rfl⟩ := Option.map_eq_some_iff.1 hFound
    have hSpells := VersionedName.ofText?_eq_some_iff.1 hParts
    exact ⟨_, by rw [Convention.texts?, hParts, Option.map_some], hSpells.readFrom⟩
  · exact readFrom_of_wordBehind (by decide) hFound
  · exact readFrom_of_wordBehind (by decide) hFound
  · obtain ⟨parts, hParts, rfl⟩ := Option.map_eq_some_iff.1 hFound
    have hSpells := UnversionedName.ofText?_eq_some_iff.1 hParts
    exact ⟨_, by rw [Convention.texts?, hParts, Option.map_some], hSpells.readFrom⟩

/-- The text is read in the name, and it begins with a digit. -/
def Refuses (resolver : Resolver) (name text : String) : Prop :=
  ∃ texts, resolver.texts? name = some texts ∧ text ∈ texts.toList ∧ LedByDigit text

/-- In the usual settings a match can be written exactly if nothing speaks against its name. -/
theorem writable_of_resolve?_iff (h : usual.resolve? name = some found) :
    found.Writable ↔ ∀ text, ¬usual.Refuses name text := by
  obtain ⟨texts, hTexts, hRead⟩ := readFrom_of_resolve? h
  rw [hRead.writable_iff]
  constructor
  · rintro hWritable text ⟨other, hOther, hText, hDigit⟩
    obtain rfl : texts = other := Option.some.inj (hTexts.symm.trans hOther)
    exact hWritable text hText hDigit
  · exact fun hNone text hText hDigit => hNone text ⟨texts, hTexts, hText, hDigit⟩

/-- The error of a match names a text that speaks against it. -/
theorem refuses_of_typePath_eq_error (h : usual.resolve? name = some found)
    (hType : usual.typePath found = .error fault) : usual.Refuses name fault.text := by
  obtain ⟨texts, hTexts, hRead⟩ := readFrom_of_resolve? h
  obtain ⟨identifier, hMem, hFails, hText⟩ := exists_of_typePath_eq_error hType
  obtain ⟨hLabel, hDigit⟩ := hRead.ledByDigit hMem hFails
  exact ⟨texts, hTexts, hText ▸ hLabel, hText ▸ hDigit⟩

end Resolver

end CratePlan
