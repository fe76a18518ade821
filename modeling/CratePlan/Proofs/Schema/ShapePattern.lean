import CratePlan.Proofs.Schema.TypeNames

/-!
# The shapes of a schema name as patterns

Each shape can be written as a pattern whose groups are the parts of a name. Both patterns leave
a search many ways to go: a module may have underscores and what looks like versions, and one
pattern takes as little of a name for the module as it can, the other as much as it can. But a
name is put together from parts in one way only, so no preference plays a part, and a search
captures just what a name is taken apart into from its end.

## Main statements

* `VersionedName.takes_shape`, `UnversionedName.takes_shape`: the patterns take the names of
  their shapes.
* `VersionedName.ofText?_eq_ofCaptures?`, `UnversionedName.ofText?_eq_ofCaptures?`: a name is
  taken apart as its pattern captures it.
* `SchemaName.taken_apart_as_spelled`: when a name has a shape, and which parts it has.
-/

namespace CratePlan

open Convention (lettersAndDigits holds_lettersAndDigits readsAll_word)

/-! ## Patterns for parts -/

/-- Letters, digits, underscores and hyphens. -/
def moduleMarks : CharSet := ⟨[(45, 45), (48, 57), (65, 90), (95, 95), (97, 122)]⟩

/-- The digits of ASCII. -/
def digits : CharSet := ⟨[(48, 57)]⟩

theorem holds_moduleMarks (c : Char) :
    moduleMarks.holds c = true ↔ c.isAlphanum = true ∨ c = '_' ∨ c = '-' := by
  have hMarks : moduleMarks.holds c = true ↔
      lettersAndDigits.holds c = true ∨ c.toNat = '_'.toNat ∨ c.toNat = '-'.toNat := by
    simp only [moduleMarks, lettersAndDigits, CharSet.holds, Text.CodeRanges.holds_cons,
      Text.CodeRanges.holds_nil, Bool.or_false, Bool.or_eq_true, Bool.and_eq_true,
      decide_eq_true_eq, Char.reduceToNat]
    omega
  rw [hMarks, holds_lettersAndDigits, Char.toNat_inj, Char.toNat_inj]

theorem holds_digits (c : Char) : digits.holds c = c.isDigit := by
  rw [Bool.eq_iff_iff]
  simp only [digits, CharSet.holds, Text.CodeRanges.holds_cons, Text.CodeRanges.holds_nil,
    Bool.or_false, Bool.and_eq_true, decide_eq_true_eq, Char.isDigit, ge_iff_le,
    UInt32.le_iff_toNat_le]
  have hCode : c.toNat = c.val.toNat := rfl
  have hDigits : '0'.val.toNat = 48 ∧ '9'.val.toNat = 57 := ⟨rfl, rfl⟩
  omega

/-- A pattern for a module. -/
def modulePattern (greedy : Bool) : Pattern :=
  .seq (.one lettersAndDigits) (.repeated 0 none greedy (.one moduleMarks))

/-- A pattern for a number of a version. -/
def numberPattern : Pattern := .repeated 1 none true (.one digits)

/-- A pattern for a version. -/
def versionPattern : Pattern :=
  .seq (.literal ['v']) (.seq numberPattern (.seq (.literal ['_']) (.seq numberPattern
    (.seq (.literal ['_']) numberPattern))))

theorem readsAll_module (greedy : Bool) :
    (modulePattern greedy).ReadsAll fun text => IsModuleLabel (String.ofList text) := by
  refine ((Pattern.readsAll_one lettersAndDigits).seq
    (Pattern.readsAll_repeated 0 greedy moduleMarks)).congr fun text => ?_
  simp only [IsModuleLabel, String.toList_ofList, List.all_eq_true, holds_moduleMarks,
    holds_lettersAndDigits, Nat.zero_le, true_and]
  constructor
  · rintro ⟨_, back, ⟨first, hFirst, rfl⟩, hBack, rfl⟩
    exact ⟨first, back, rfl, hFirst, hBack⟩
  · rintro ⟨first, back, rfl, hFirst, hBack⟩
    exact ⟨[first], back, ⟨first, hFirst, rfl⟩, hBack, rfl⟩

theorem readsAll_number : numberPattern.ReadsAll fun text => IsNumeral (String.ofList text) := by
  refine (Pattern.readsAll_repeated 1 true digits).congr fun text => ?_
  have hSome : 1 ≤ text.length ↔ String.ofList text ≠ "" := by
    rw [Nat.one_le_iff_ne_zero, Ne, List.length_eq_zero_iff, Ne, String.ofList_eq_empty_iff]
  rw [hSome, IsNumeral, List.all_eq_true, String.toList_ofList]
  simp only [holds_digits]

theorem readsAll_version :
    versionPattern.ReadsAll fun text => IsVersionLabel (String.ofList text) := by
  have hMark := Pattern.readsAll_literal ['_']
  refine ((Pattern.readsAll_literal ['v']).seq (readsAll_number.seq (hMark.seq (readsAll_number.seq
    (hMark.seq readsAll_number))))).congr fun text => ?_
  constructor
  · rintro ⟨_, _, rfl, ⟨major, _, hMajor, ⟨_, _, rfl, ⟨minor, _, hMinor, ⟨_, patch, rfl, hPatch,
      rfl⟩, rfl⟩, rfl⟩, rfl⟩, rfl⟩
    refine ⟨_, _, _, ?_, hMajor, hMinor, hPatch⟩
    rw [← String.toList_inj]
    simp
  · rintro ⟨major, minor, patch, hText, hMajor, hMinor, hPatch⟩
    rw [← String.ofList_toList (s := major)] at hMajor
    rw [← String.ofList_toList (s := minor)] at hMinor
    rw [← String.ofList_toList (s := patch)] at hPatch
    refine ⟨_, _, rfl, ⟨_, _, hMajor, ⟨_, _, rfl, ⟨_, _, hMinor, ⟨_, _, rfl, hPatch, rfl⟩, rfl⟩,
      rfl⟩, rfl⟩, ?_⟩
    rw [← String.toList_ofList (l := text), hText]
    simp

/-! ## Patterns for names -/

namespace UnversionedName

/-- How the unversioned shape is written as a pattern. -/
def shape : String := "^(?P<module>[A-Za-z0-9][A-Za-z0-9_-]*)_(?P<model>[A-Za-z0-9]+)$"

/-- A pattern for the text of a name. -/
def shapePattern : Pattern :=
  .seq (.group 1 (some "module") (modulePattern true)) (.seq (.literal ['_'])
    (.seq (.group 2 (some "model") (.repeated 1 none true (.one lettersAndDigits)))
      (.boundary .textEnd)))

theorem ofText?_shape :
    Pattern.ofText? shape = some (.seq (.boundary .textStart) shapePattern) := by
  decide +kernel

/-- What the groups of a pattern hold of a name. -/
def ofCaptures? (pattern : Pattern) (name : String) : Option UnversionedName := do
  let module ← pattern.capture? "module" name
  let model ← pattern.capture? "model" name
  return ⟨module, model⟩

/-- The parts of a name, as groups hold them. -/
def groups (parts : UnversionedName) : List (String × List Char) :=
  [("model", parts.model.toList), ("module", parts.module.toList)]

/-- The pattern takes the names of the shape. -/
theorem takes_shape : shapePattern.TakesParts Spells groups := by
  have hMark := (Pattern.readsAll_literal ['_']).takes
  refine ((Pattern.takes_group (readsAll_module true) 1 "module").seq (hMark.seq
    ((Pattern.takes_group readsAll_word 2 "model").seq Pattern.takes_textEnd))).congr
      fun after held rest => ?_
  constructor
  · rintro ⟨_, _, _, ⟨module, hModule, rfl, rfl⟩, ⟨_, _, _, ⟨_, rfl, rfl, rfl⟩, ⟨_, _, _,
      ⟨model, hModel, rfl, rfl⟩, ⟨rfl, rfl, rfl⟩, rfl⟩, rfl⟩, rfl⟩
    refine ⟨⟨String.ofList module, String.ofList model⟩, ⟨?_, hModule, hModel⟩, ?_, rfl⟩
    · rw [← String.toList_inj]
      simp
    · simp [groups]
  · rintro ⟨parts, ⟨hText, hModule, hModel⟩, rfl, rfl⟩
    rw [← String.ofList_toList (s := parts.module)] at hModule
    rw [← String.ofList_toList (s := parts.model)] at hModel
    refine ⟨_, _, _, ⟨_, hModule, ?_, rfl⟩, ⟨_, _, _, ⟨_, rfl, rfl, rfl⟩, ⟨_, _, _,
      ⟨_, hModel, rfl, rfl⟩, ⟨rfl, rfl, rfl⟩, rfl⟩, rfl⟩, rfl⟩
    rw [← String.toList_ofList (l := after), hText]
    simp

/-- A name is taken apart as the pattern captures it. -/
theorem ofText?_eq_ofCaptures? (name : String) :
    ofText? name = ofCaptures? (.seq (.boundary .textStart) shapePattern) name := by
  have hRead : ∀ parts, ofText? name = some parts ↔ Spells parts name :=
    fun _ => ofText?_eq_some_iff
  have hGroup := takes_shape.finds_start.capture?_eq hRead
  rw [ofCaptures?, hGroup "module", hGroup "model"]
  cases ofText? name with
  | none => rfl
  | some parts => simp [groups, List.lookup_cons]

end UnversionedName

namespace VersionedName

/-- How the versioned shape is written as a pattern. -/
def shape : String :=
  "^(?P<module>[A-Za-z0-9][A-Za-z0-9_-]*?)_(?P<version>v[0-9]+_[0-9]+_[0-9]+)" ++
    "_(?P<model>[A-Za-z0-9]+)$"

/-- A pattern for the text of a name. -/
def shapePattern : Pattern :=
  .seq (.group 1 (some "module") (modulePattern false)) (.seq (.literal ['_'])
    (.seq (.group 2 (some "version") versionPattern) (.seq (.literal ['_'])
      (.seq (.group 3 (some "model") (.repeated 1 none true (.one lettersAndDigits)))
        (.boundary .textEnd)))))

theorem ofText?_shape :
    Pattern.ofText? shape = some (.seq (.boundary .textStart) shapePattern) := by
  decide +kernel

/-- What the groups of a pattern hold of a name. -/
def ofCaptures? (pattern : Pattern) (name : String) : Option VersionedName := do
  let module ← pattern.capture? "module" name
  let version ← pattern.capture? "version" name
  let model ← pattern.capture? "model" name
  return ⟨module, version, model⟩

/-- The parts of a name, as groups hold them. -/
def groups (parts : VersionedName) : List (String × List Char) :=
  [("model", parts.model.toList), ("version", parts.version.toList),
    ("module", parts.module.toList)]

/-- The pattern takes the names of the shape. -/
theorem takes_shape : shapePattern.TakesParts Spells groups := by
  have hMark := (Pattern.readsAll_literal ['_']).takes
  refine ((Pattern.takes_group (readsAll_module false) 1 "module").seq (hMark.seq
    ((Pattern.takes_group readsAll_version 2 "version").seq (hMark.seq
      ((Pattern.takes_group readsAll_word 3 "model").seq Pattern.takes_textEnd))))).congr
        fun after held rest => ?_
  constructor
  · rintro ⟨_, _, _, ⟨module, hModule, rfl, rfl⟩, ⟨_, _, _, ⟨_, rfl, rfl, rfl⟩, ⟨_, _, _,
      ⟨version, hVersion, rfl, rfl⟩, ⟨_, _, _, ⟨_, rfl, rfl, rfl⟩, ⟨_, _, _,
        ⟨model, hModel, rfl, rfl⟩, ⟨rfl, rfl, rfl⟩, rfl⟩, rfl⟩, rfl⟩, rfl⟩, rfl⟩
    refine ⟨⟨String.ofList module, String.ofList version, String.ofList model⟩,
      ⟨?_, hModule, hVersion, hModel⟩, ?_, rfl⟩
    · rw [← String.toList_inj]
      simp
    · simp [groups]
  · rintro ⟨parts, ⟨hText, hModule, hVersion, hModel⟩, rfl, rfl⟩
    rw [← String.ofList_toList (s := parts.module)] at hModule
    rw [← String.ofList_toList (s := parts.version)] at hVersion
    rw [← String.ofList_toList (s := parts.model)] at hModel
    refine ⟨_, _, _, ⟨_, hModule, ?_, rfl⟩, ⟨_, _, _, ⟨_, rfl, rfl, rfl⟩, ⟨_, _, _,
      ⟨_, hVersion, rfl, rfl⟩, ⟨_, _, _, ⟨_, rfl, rfl, rfl⟩, ⟨_, _, _, ⟨_, hModel, rfl, rfl⟩,
        ⟨rfl, rfl, rfl⟩, rfl⟩, rfl⟩, rfl⟩, rfl⟩, rfl⟩
    rw [← String.toList_ofList (l := after), hText]
    simp

/-- A name is taken apart as the pattern captures it. -/
theorem ofText?_eq_ofCaptures? (name : String) :
    ofText? name = ofCaptures? (.seq (.boundary .textStart) shapePattern) name := by
  have hRead : ∀ parts, ofText? name = some parts ↔ Spells parts name :=
    fun _ => ofText?_eq_some_iff
  have hGroup := takes_shape.finds_start.capture?_eq hRead
  rw [ofCaptures?, hGroup "module", hGroup "version", hGroup "model"]
  cases ofText? name with
  | none => rfl
  | some parts => simp [groups, List.lookup_cons]

end VersionedName

namespace SchemaName

/-- A name has a shape exactly if it is put together from parts of that shape. There is one way
to do so, and a name is taken apart into these parts, as the pattern of the shape captures them.
Where a version is found it could be counted to the module as well, but the name is read with
its version. -/
theorem taken_apart_as_spelled (name : String) :
    ((∀ parts, VersionedName.parse name = .ok parts ↔ parts.Spells name) ∧
      ∀ parts other : VersionedName, parts.Spells name → other.Spells name → parts = other) ∧
    ((∀ parts, UnversionedName.parse name = .ok parts ↔ parts.Spells name) ∧
      (∀ parts other : UnversionedName, parts.Spells name → other.Spells name → parts = other) ∧
      ∀ parts : UnversionedName, parts.Spells name → '_' ∉ parts.model.toList) ∧
    (∀ parts : VersionedName, parts.Spells name →
      UnversionedName.Spells ⟨parts.module ++ "_" ++ parts.version, parts.model⟩ name ∧
        SchemaName.parse name = .ok (.versioned parts)) ∧
    ∃ versioned unversioned, Pattern.ofText? VersionedName.shape = some versioned ∧
      Pattern.ofText? UnversionedName.shape = some unversioned ∧
      VersionedName.ofText? name = VersionedName.ofCaptures? versioned name ∧
      UnversionedName.ofText? name = UnversionedName.ofCaptures? unversioned name := by
  refine ⟨⟨fun parts => ?_, fun parts other h hOther => h.eq hOther⟩,
    ⟨fun parts => ?_, fun parts other h hOther => h.eq hOther, fun parts h => ?_⟩,
    fun parts h => ⟨h.toUnversioned, parse_eq_versioned_iff.2 h⟩,
    _, _, VersionedName.ofText?_shape, UnversionedName.ofText?_shape,
    VersionedName.ofText?_eq_ofCaptures? name, UnversionedName.ofText?_eq_ofCaptures? name⟩
  · rw [VersionedName.parse_eq_ok_iff, VersionedName.ofText?_eq_some_iff]
  · rw [UnversionedName.parse_eq_ok_iff, UnversionedName.ofText?_eq_some_iff]
  · exact h.model.mark_not_mem '_' rfl

theorem taken_apart_two_versions :
    VersionedName.Spells ⟨"A_v1_2_3", "v4_5_6", "M"⟩ "A_v1_2_3_v4_5_6_M" ∧
      UnversionedName.Spells ⟨"A_v1_2_3_v4_5_6", "M"⟩ "A_v1_2_3_v4_5_6_M" ∧
      SchemaName.parse "A_v1_2_3_v4_5_6_M" = .ok (.versioned ⟨"A_v1_2_3", "v4_5_6", "M"⟩) := by
  obtain ⟨⟨hVersioned, -⟩, -, hBoth, -⟩ := taken_apart_as_spelled "A_v1_2_3_v4_5_6_M"
  have hSpells := (hVersioned ⟨"A_v1_2_3", "v4_5_6", "M"⟩).1 (by rfl)
  exact ⟨hSpells, hBoth _ hSpells⟩

end SchemaName

end CratePlan
