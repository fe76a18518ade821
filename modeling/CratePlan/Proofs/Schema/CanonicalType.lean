import CratePlan.Proofs.Schema.Agreement

/-!
# Canonical types tell schemas apart

The canonical type of a schema is put together from the parts of its name, with full stops
where underscores stood between them. Not every underscore becomes a full stop: a module keeps
its own, and a version keeps both of those between its numbers. But no part has a full stop, so
that each one in a type is in the place of an underscore, and the name comes back when all of
them are put back. It does not matter which shape the name has, or where its parts end.

## Main statements

* `SchemaName.underscored_dotted`: the parts of a name give the name back.
* `types_tell_names_apart`: two references have one canonical type only if they end in one name.
-/

namespace CratePlan

open Text

namespace Text

/-- The text with an underscore in the place of each full stop. -/
def underscored (text : String) : String :=
  text.map fun c => if c = '.' then '_' else c

theorem toList_underscored (text : String) :
    (underscored text).toList = text.toList.map fun c => if c = '.' then '_' else c :=
  String.toList_map

@[simp] theorem underscored_append (text more : String) :
    underscored (text ++ more) = underscored text ++ underscored more := by
  rw [← String.toList_inj]
  simp only [toList_underscored, String.toList_append, List.map_append]

@[simp] theorem underscored_dot : underscored "." = "_" := by
  rw [← String.toList_inj, toList_underscored]
  rfl

/-- A text without full stops stays as it is. -/
theorem underscored_of_not_mem {text : String} (h : '.' ∉ text.toList) :
    underscored text = text := by
  have hKept : ∀ c ∈ text.toList, (if c = '.' then '_' else c) = c :=
    fun c hc => if_neg (ne_of_mem_of_not_mem hc h)
  rw [← String.toList_inj, toList_underscored, List.map_congr_left hKept, List.map_id']

end Text

/-! ## Parts of a name -/

/-- Put back, the full stops of an unversioned name are the underscore behind its module. -/
theorem UnversionedName.Spells.underscored_parts {name : String} {parts : UnversionedName}
    (h : parts.Spells name) : underscored (parts.module ++ "." ++ parts.model) = name := by
  simp [underscored_of_not_mem (dot_not_mem h.module.isAlphanum_or_mark),
    underscored_of_not_mem (h.model.mark_not_mem '.' rfl), h.text_eq]

/-- Put back, the full stops of a versioned name are the underscores around its version. -/
theorem VersionedName.Spells.underscored_parts {name : String} {parts : VersionedName}
    (h : parts.Spells name) :
    underscored (parts.module ++ "." ++ parts.version ++ "." ++ parts.model) = name := by
  have hVersion : '.' ∉ parts.version.toList :=
    dot_not_mem fun c hc => (h.version.isAlphanum_or_mark c hc).imp_right .inl
  simp [underscored_of_not_mem (dot_not_mem h.module.isAlphanum_or_mark),
    underscored_of_not_mem hVersion, underscored_of_not_mem (h.model.mark_not_mem '.' rfl),
    h.text_eq]

namespace SchemaName

/-- The parts of a name with full stops between them. -/
def dotted : SchemaName → String
  | versioned name => name.module ++ "." ++ name.version ++ "." ++ name.model
  | unversioned name => name.module ++ "." ++ name.model

/-- A canonical type is made of the parts, behind a number sign. -/
theorem canonicalType_eq (parts : SchemaName) : parts.canonicalType = "#" ++ parts.dotted := by
  cases parts <;> simp only [canonicalType, dotted, String.append_assoc]

/-- The parts of a name give the name back, whatever its shape. -/
theorem underscored_dotted {name : String} {parts : SchemaName} (h : parse name = .ok parts) :
    underscored parts.dotted = name := by
  cases parts with
  | versioned parts => exact (parse_eq_versioned_iff.1 h).underscored_parts
  | unversioned parts => exact (parse_eq_unversioned_iff.1 h).2.underscored_parts

end SchemaName

/-! ## Types of references -/

/-- A canonical type is a number sign in front of a text that gives back the name that the
reference ends in. -/
theorem exists_underscored_of_canonicalTypeOf {reference type : String}
    (h : canonicalTypeOf reference = .ok type) :
    ∃ text, type = "#" ++ text ∧ underscored text = lastSegment reference := by
  obtain ⟨parts, hParts, rfl⟩ := Outcome.map_eq_ok_iff.1 h
  exact ⟨parts.dotted, parts.canonicalType_eq, SchemaName.underscored_dotted hParts⟩

/-- Two references have the same canonical type exactly if they end in the same name, and the
name is read off the type. In particular no two names have a canonical type in common. -/
theorem types_tell_names_apart {reference other type otherType : String}
    (hType : canonicalTypeOf reference = .ok type)
    (hOther : canonicalTypeOf other = .ok otherType) :
    (type = otherType ↔ lastSegment reference = lastSegment other) ∧
    (∃ text, type = "#" ++ text ∧ underscored text = lastSegment reference) ∧
    ('/' ∉ reference.toList → '/' ∉ other.toList → (type = otherType ↔ reference = other)) := by
  obtain ⟨text, hText, hName⟩ := exists_underscored_of_canonicalTypeOf hType
  obtain ⟨otherText, hOtherText, hOtherName⟩ := exists_underscored_of_canonicalTypeOf hOther
  have hApart : type = otherType ↔ lastSegment reference = lastSegment other := by
    constructor
    · intro hSame
      rw [hText, hOtherText, String.append_right_inj] at hSame
      rw [← hName, ← hOtherName, hSame]
    · intro hSame
      rw [canonicalTypeOf, hSame, ← canonicalTypeOf, hOther] at hType
      exact (Except.ok.inj hType).symm
  refine ⟨hApart, ⟨text, hText, hName⟩, fun hPlain hOtherPlain => ?_⟩
  rw [hApart, lastSegment, lastSegment, afterLast_of_not_mem hPlain,
    afterLast_of_not_mem hOtherPlain, String.ofList_toList, String.ofList_toList]

/-- The second of these names lacks one number of a version, so that it is read in the other
shape, with what there is of a version in the module. -/
theorem types_apart_across_shapes :
    canonicalTypeOf "A-b_v1_2_v3_4_5_M" = .ok "#A-b_v1_2.v3_4_5.M" ∧
      canonicalTypeOf "A-b_v1_2_v3_4_M" = .ok "#A-b_v1_2_v3_4.M" ∧
      '/' ∉ "A-b_v1_2_v3_4_5_M".toList ∧ '/' ∉ "A-b_v1_2_v3_4_M".toList ∧
      ("#A-b_v1_2.v3_4_5.M" = "#A-b_v1_2_v3_4.M" ↔
        lastSegment "A-b_v1_2_v3_4_5_M" = lastSegment "A-b_v1_2_v3_4_M") ∧
      (∃ text, "#A-b_v1_2.v3_4_5.M" = "#" ++ text ∧
        underscored text = lastSegment "A-b_v1_2_v3_4_5_M") ∧
      ("#A-b_v1_2.v3_4_5.M" = "#A-b_v1_2_v3_4.M" ↔ "A-b_v1_2_v3_4_5_M" = "A-b_v1_2_v3_4_M") := by
  have hVersioned : canonicalTypeOf "A-b_v1_2_v3_4_5_M" = .ok "#A-b_v1_2.v3_4_5.M" := by rfl
  have hUnversioned : canonicalTypeOf "A-b_v1_2_v3_4_M" = .ok "#A-b_v1_2_v3_4.M" := by rfl
  have hPlain : '/' ∉ "A-b_v1_2_v3_4_5_M".toList := by decide
  have hOtherPlain : '/' ∉ "A-b_v1_2_v3_4_M".toList := by decide
  obtain ⟨hTypes, hText, hNames⟩ := types_tell_names_apart hVersioned hUnversioned
  exact ⟨hVersioned, hUnversioned, hPlain, hOtherPlain, hTypes, hText, hNames hPlain hOtherPlain⟩

end CratePlan
