import CratePlan.Proofs.Schema.TypeNames

/-!
# Places that agree with types

A name is read twice: once for the canonical type of its schema, and once, by the conventions,
for the modules that the schema lies in. The readings are made apart, and two of the conventions
know nothing of the shapes that types come from. In the usual settings they agree all the same:
the pieces of the type, between its full stops, spell the modules and the model of the match.

There are two places where they could fall apart. A name that begins with `odata-v4_` is matched
by a pattern before it is read in the unversioned shape, but that shape has just one reading, and
what the pattern leaves is its module in another spelling. And the pattern for names that begin
with `Redfish` asks for letters and digits only, so that these names have no type at all.

## Main statements

* `VersionedName.readOff`, `UnversionedName.readOff`: the pieces of a type.
* `Resolver.resolve?_usual`: what becomes of a name in the usual settings.
* `Resolver.agrees_with_type`: a match is read off the type, and without a type there is a match
  for certain names only.
-/

namespace CratePlan

open Text

/-- The type is a number sign and pieces with full stops between them. The last piece spells the
model of the match, and those before it spell its modules. -/
def SchemaMatch.ReadOff (found : SchemaMatch) (type : String) : Prop :=
  ∃ text modules model, type = "#" ++ text ∧
    text.toList.splitOn '.' = (modules ++ [model]).map String.toList ∧
    found.module.map Identifier.words =
      modules.map (fun piece => (Identifier.ofLabel piece).words) ∧
    found.model.words = (Identifier.ofLabel model).words

/-- Pieces without full stops are read off a type that is put together from them. -/
theorem SchemaMatch.readOff_intercalate {found : SchemaMatch} {type : String}
    (modules : List String) (model : String)
    (hType : type.toList =
      '#' :: ['.'].intercalate ((modules ++ [model]).map String.toList))
    (hPieces : ∀ piece ∈ modules ++ [model], '.' ∉ piece.toList)
    (hModule : found.module.map Identifier.words =
      modules.map (fun piece => (Identifier.ofLabel piece).words))
    (hModel : found.model.words = (Identifier.ofLabel model).words) : found.ReadOff type := by
  refine ⟨String.ofList (['.'].intercalate ((modules ++ [model]).map String.toList)), modules,
    model, ?_, ?_, hModule, hModel⟩
  · rw [← String.toList_inj, hType]
    simp
  · rw [String.toList_ofList, List.splitOn_intercalate _ (List.forall_mem_map.2 hPieces) (by simp)]

/-- A full stop is none of the marks that names are put together from. -/
theorem dot_not_mem {text : String}
    (h : ∀ c ∈ text.toList, c.isAlphanum = true ∨ c = '_' ∨ c = '-') : '.' ∉ text.toList := by
  intro hMem
  have hMarks := h '.' hMem
  revert hMarks
  decide

theorem VersionedName.Spells.readOff {name : String} {parts : VersionedName}
    (h : parts.Spells name) :
    SchemaMatch.ReadOff ⟨parts.modulePath, .ofLabel parts.model⟩
      (SchemaName.versioned parts).canonicalType := by
  refine SchemaMatch.readOff_intercalate [parts.module, parts.version] parts.model ?_ ?_ rfl rfl
  · simp [SchemaName.canonicalType, List.intercalate]
  · have hVersion : '.' ∉ parts.version.toList :=
      dot_not_mem fun c hc => (h.version.isAlphanum_or_mark c hc).imp_right .inl
    simp [dot_not_mem h.module.isAlphanum_or_mark, hVersion, h.model.mark_not_mem '.' rfl]

/-- The module of a match may be spelled otherwise. -/
theorem UnversionedName.Spells.readOff {name : String} {parts : UnversionedName}
    (h : parts.Spells name) {module : Identifier}
    (hModule : module.words = (Identifier.ofLabel parts.module).words) :
    SchemaMatch.ReadOff ⟨[module], .ofLabel parts.model⟩
      (SchemaName.unversioned parts).canonicalType := by
  refine SchemaMatch.readOff_intercalate [parts.module] parts.model ?_ ?_ (by simpa using hModule)
    rfl
  · simp [SchemaName.canonicalType, List.intercalate]
  · simp [dot_not_mem h.module.isAlphanum_or_mark, h.model.mark_not_mem '.' rfl]

/-- A name of a shape is the last segment of itself. -/
theorem UnversionedName.Spells.lastSegment_eq {name : String} {parts : UnversionedName}
    (h : parts.Spells name) : lastSegment name = name := by
  have hSlash : '/' ∉ name.toList := by
    intro hMem
    have hMarks := h.isAlphanum_or_mark '/' hMem
    revert hMarks
    decide
  rw [lastSegment, afterLast_of_not_mem hSlash, String.ofList_toList]

/-! ## The conventions of the usual settings -/

namespace Convention

/-- The pattern for a word behind a text places it in its module. -/
theorem match?_wordBehind_iff {start name : String} {module : Identifier} {found : SchemaMatch} :
    (fixed (wordBehind start) module).match? name = some found ↔
      ∃ word, name = start ++ word ∧ IsPlainWord word ∧ found = ⟨[module], .ofLabel word⟩ := by
  simp only [match?, Option.map_eq_some_iff, capture?_wordBehind, and_assoc, eq_comm (b := found)]

theorem isModuleLabel_odata : IsModuleLabel "odata-v4" :=
  isModuleText_iff.1 (by rfl)

theorem words_odata :
    (Identifier.ofLabel "odata_v4").words = (Identifier.ofLabel "odata-v4").words := by
  decide

/-- Names behind `odata-v4_` have the unversioned shape. -/
theorem spells_odata {word : String} (h : IsPlainWord word) :
    UnversionedName.Spells ⟨"odata-v4", word⟩ ("odata-v4_" ++ word) where
  text_eq := rfl
  module := isModuleLabel_odata
  model := h

end Convention

namespace Resolver

open Convention

theorem resolve?_cons (convention : Convention) (others : List Convention) (base : Identifier)
    (name : String) :
    resolve? ⟨convention :: others, base⟩ name =
      (convention.match? name).or (resolve? ⟨others, base⟩ name) := by
  rw [resolve?, List.findSome?_cons]
  cases convention.match? name <;> rfl

/-- In the usual settings the versioned shape is tried first, then the two patterns, and the
unversioned shape last. -/
theorem resolve?_usual (name : String) :
    usual.resolve? name = (versioned.match? name).or
      (((fixed (wordBehind "Redfish") (.ofLabel "redfish")).match? name).or
        (((fixed (wordBehind "odata-v4_") (.ofLabel "odata_v4")).match? name).or
          (unversioned.match? name))) := by
  rw [usual, resolve?_cons, resolve?_cons, resolve?_cons, resolve?_cons, resolve?,
    List.findSome?_nil, Option.or_none]

/-- A name of the versioned shape is placed by it. -/
theorem resolve?_usual_of_versioned {name : String} {parts : VersionedName}
    (h : parts.Spells name) :
    usual.resolve? name = some ⟨parts.modulePath, .ofLabel parts.model⟩ := by
  rw [resolve?_usual, match?, VersionedName.ofText?_eq_some_iff.2 h]
  rfl

/-- A name of the unversioned shape alone is placed in its module, which the second of the two
patterns may spell otherwise. -/
theorem resolve?_usual_of_unversioned {name : String} {parts : UnversionedName}
    (hVersioned : VersionedName.ofText? name = none) (h : parts.Spells name) :
    ∃ module : Identifier, usual.resolve? name = some ⟨[module], .ofLabel parts.model⟩ ∧
      module.words = (Identifier.ofLabel parts.module).words := by
  have hFirst : versioned.match? name = none := by rw [match?, hVersioned, Option.map_none]
  have hRedfish : (fixed (wordBehind "Redfish") (.ofLabel "redfish")).match? name = none := by
    refine Option.eq_none_iff_forall_ne_some.2 fun found hFound => ?_
    obtain ⟨word, hName, hWord, -⟩ := match?_wordBehind_iff.1 hFound
    have hMark : '_' ∈ name.toList := by
      rw [h.text_eq]
      simp
    rw [hName, String.toList_append, List.mem_append] at hMark
    rcases hMark with hStart | hBehind
    · revert hStart
      decide
    · exact hWord.mark_not_mem '_' rfl hBehind
  rw [resolve?_usual, hFirst, hRedfish, Option.none_or, Option.none_or]
  cases hData : (fixed (wordBehind "odata-v4_") (.ofLabel "odata_v4")).match? name with
  | some found =>
      obtain ⟨word, rfl, hWord, rfl⟩ := match?_wordBehind_iff.1 hData
      obtain rfl : ⟨"odata-v4", word⟩ = parts := (spells_odata hWord).eq h
      exact ⟨.ofLabel "odata_v4", rfl, words_odata⟩
  | none =>
      refine ⟨.ofLabel parts.module, ?_, rfl⟩
      rw [Option.none_or, match?, UnversionedName.ofText?_eq_some_iff.2 h]
      rfl

/-- A name of neither shape is placed only by the first of the two patterns. -/
theorem exists_resolve?_usual_iff {name : String}
    (h : ∀ parts : UnversionedName, ¬parts.Spells name) :
    (∃ found, usual.resolve? name = some found) ↔
      ∃ word, name = "Redfish" ++ word ∧ IsPlainWord word := by
  have hFirst : versioned.match? name = none := by
    refine Option.eq_none_iff_forall_ne_some.2 fun found hFound => ?_
    obtain ⟨parts, hParts, -⟩ := Option.map_eq_some_iff.1 hFound
    exact h _ (VersionedName.ofText?_eq_some_iff.1 hParts).toUnversioned
  have hData : (fixed (wordBehind "odata-v4_") (.ofLabel "odata_v4")).match? name = none := by
    refine Option.eq_none_iff_forall_ne_some.2 fun found hFound => ?_
    obtain ⟨word, rfl, hWord, -⟩ := match?_wordBehind_iff.1 hFound
    exact h _ (spells_odata hWord)
  have hLast : unversioned.match? name = none := by
    refine Option.eq_none_iff_forall_ne_some.2 fun found hFound => ?_
    obtain ⟨parts, hParts, -⟩ := Option.map_eq_some_iff.1 hFound
    exact h _ (UnversionedName.ofText?_eq_some_iff.1 hParts)
  rw [resolve?_usual, hFirst, hData, hLast, Option.none_or, Option.none_or, Option.or_none]
  constructor
  · rintro ⟨found, hFound⟩
    obtain ⟨word, hName, hWord, -⟩ := match?_wordBehind_iff.1 hFound
    exact ⟨word, hName, hWord⟩
  · rintro ⟨word, hName, hWord⟩
    exact ⟨_, match?_wordBehind_iff.2 ⟨word, hName, hWord, rfl⟩⟩

/-- In the usual settings the match of a name is read off its type. Names without a type have a
match only if they are letters and digits behind `Redfish`. -/
theorem agrees_with_type {resolver : Resolver}
    (hResolver : Resolver.ofSettings .default = .ok resolver) (name : String) :
    (∀ type, canonicalTypeOf name = .ok type → '/' ∉ name.toList →
      ∃ found, resolver.resolve? name = some found ∧ found.ReadOff type) ∧
    ∀ error, canonicalTypeOf name = .error error →
      ((∃ found, resolver.resolve? name = some found) ↔
        ∃ word, name = "Redfish" ++ word ∧ IsPlainWord word) := by
  obtain rfl : .usual = resolver := Except.ok.inj (ofSettings_default.symm.trans hResolver)
  constructor
  · intro type hType hSlash
    rw [canonicalTypeOf, lastSegment, afterLast_of_not_mem hSlash, String.ofList_toList] at hType
    cases hParse : SchemaName.parse name with
    | error error => simp [hParse, Except.map] at hType
    | ok schema =>
        obtain rfl : schema.canonicalType = type := by simpa [hParse, Except.map] using hType
        cases schema with
        | versioned parts =>
            have hSpells := SchemaName.parse_eq_versioned_iff.1 hParse
            exact ⟨_, resolve?_usual_of_versioned hSpells, hSpells.readOff⟩
        | unversioned parts =>
            obtain ⟨hVersioned, hSpells⟩ := SchemaName.parse_eq_unversioned_iff.1 hParse
            obtain ⟨module, hFound, hModule⟩ := resolve?_usual_of_unversioned hVersioned hSpells
            exact ⟨_, hFound, hSpells.readOff hModule⟩
  · intro error hError
    refine exists_resolve?_usual_iff fun parts hSpells => ?_
    rw [canonicalTypeOf, hSpells.lastSegment_eq] at hError
    cases hParse : SchemaName.parse name with
    | ok schema => simp [hParse, Except.map] at hError
    | error other =>
        have hNone := (SchemaName.ofText?_eq_none_of_parse hParse).2
        rw [UnversionedName.ofText?_eq_some_iff.2 hSpells] at hNone
        cases hNone

theorem types_agree_for_contexts :
    Resolver.ofSettings .default = .ok .usual ∧
      canonicalTypeOf "odata-v4_Context" = .ok "#odata-v4.Context" ∧
      '/' ∉ "odata-v4_Context".toList ∧
      (∃ found, Resolver.usual.resolve? "odata-v4_Context" = some found ∧
        found.ReadOff "#odata-v4.Context") ∧
      canonicalTypeOf "RedfishError" = .error ⟨"RedfishError", .unversioned⟩ ∧
      ∃ found, Resolver.usual.resolve? "RedfishError" = some found := by
  have hType : canonicalTypeOf "odata-v4_Context" = .ok "#odata-v4.Context" := by rfl
  have hSlash : '/' ∉ "odata-v4_Context".toList := by decide
  have hError : canonicalTypeOf "RedfishError" = .error ⟨"RedfishError", .unversioned⟩ := by rfl
  have hWord : IsPlainWord "Error" := isModelText_iff.1 (by rfl)
  obtain ⟨hContext, -⟩ := agrees_with_type ofSettings_default "odata-v4_Context"
  obtain ⟨-, hWithout⟩ := agrees_with_type ofSettings_default "RedfishError"
  exact ⟨ofSettings_default, hType, hSlash, hContext _ hType hSlash, hError,
    (hWithout _ hError).2 ⟨"Error", rfl, hWord⟩⟩

end Resolver

end CratePlan
