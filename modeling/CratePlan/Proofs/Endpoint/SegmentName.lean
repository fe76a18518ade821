import CratePlan.Endpoint.Segment
import CratePlan.Proofs.Schema.NameTexts

/-!
# The names of segments

Of the four patterns of the usual settings three are held to both ends of a segment, and one only
to its end: it looks for a full stop with a word behind it, and what stands in front is not asked
for. So it could be in question which of them a segment is for, and, where it has several full
stops, which word is meant.

Neither is. A word has no marks, so the mark that a segment has besides tells which pattern it is
for: a full stop, else a brace, else a dollar sign, and without a mark it is a word itself. And the
full stop in front of a word is the last one. Hence no segment is read by two patterns, and their
order does not matter.

## Main statements

* `SegmentShape.finds_pattern`: which segments each pattern finds, and what its group holds.
* `SegmentShape.Spells.eq_ofSegment`, `SegmentShape.Spells.name_unique`: a segment has one shape,
  and one name.
* `SegmentShape.exists_spells_iff`: the segments that have a shape.
* `SegmentNames.name?_usual_iff`: the names of segments in the usual settings.
* `SegmentNames.segments_read_in_one_way`: all that together, and which names can be written.
-/

namespace CratePlan

open Outcome
open Convention (lettersAndDigits readsAll_word)

/-- The pattern matches the segment, whatever its groups hold then. -/
def SegmentPattern.Matches (pattern : SegmentPattern) (segment : String) : Prop :=
  ∃ held, (Machine.ofPattern pattern.pattern).search segment.toList = some held

/-- The names of segments in the usual settings: letters and digits, alone or in braces
or behind a full stop, and one name of its own. -/
def SegmentNames.usual : SegmentNames :=
  let word : Pattern :=
    .group 1 (some SegmentPattern.nameGroup)
      (.repeated 1 none true (.one ⟨[(48, 57), (65, 90), (97, 122)]⟩))
  let metadata : Pattern := .group 1 (some SegmentPattern.nameGroup) (.literal "metadata".toList)
  ⟨[⟨.seq (.boundary .textStart) (.seq word (.boundary .textEnd))⟩,
    ⟨.seq (.boundary .textStart) (.seq (.literal ['\x7b'])
      (.seq word (.seq (.literal ['\x7d']) (.boundary .textEnd))))⟩,
    ⟨.seq (.literal ['.']) (.seq word (.boundary .textEnd))⟩,
    ⟨.seq (.boundary .textStart) (.seq (.literal ['$']) (.seq metadata (.boundary .textEnd)))⟩]⟩

theorem SegmentNames.ofSettings_default : SegmentNames.ofSettings .default = .ok .usual := by
  decide +kernel

/-- The shapes of segments that have names in the usual settings. -/
inductive SegmentShape where
  /-- A word. -/
  | plain
  /-- A word in braces. -/
  | braced
  /-- A word behind a full stop. -/
  | dotted
  /-- One segment of its own. -/
  | metadata
deriving Repr, DecidableEq, Inhabited

namespace SegmentShape

variable {shape other : SegmentShape} {name otherName segment : String}

/-- The segment has the shape and is called by the name. -/
def Spells (shape : SegmentShape) (name segment : String) : Prop :=
  match shape with
  | plain => segment = name ∧ IsPlainWord name
  | braced => segment = "\x7b" ++ name ++ "\x7d" ∧ IsPlainWord name
  | dotted => (∃ front, segment = front ++ "." ++ name) ∧ IsPlainWord name
  | metadata => segment = "$metadata" ∧ name = "metadata"

/-! ## One shape and one name -/

/-- The shape of a segment, if it has one, told by its marks. -/
def ofSegment (segment : String) : SegmentShape :=
  if '.' ∈ segment.toList then dotted
  else if '\x7b' ∈ segment.toList then braced
  else if '$' ∈ segment.toList then metadata
  else plain

/-- A segment has no other shape than the one that its marks tell. -/
theorem Spells.eq_ofSegment (h : shape.Spells name segment) : shape = ofSegment segment := by
  cases shape with
  | plain =>
      obtain ⟨rfl, hWord⟩ := h
      have hStop := hWord.mark_not_mem '.' rfl
      have hBrace := hWord.mark_not_mem '\x7b' rfl
      have hDollar := hWord.mark_not_mem '$' rfl
      simp [ofSegment, hStop, hBrace, hDollar]
  | braced =>
      obtain ⟨rfl, hWord⟩ := h
      have hStop := hWord.mark_not_mem '.' rfl
      simp [ofSegment, hStop]
  | dotted =>
      obtain ⟨⟨front, rfl⟩, -⟩ := h
      simp [ofSegment]
  | metadata =>
      obtain ⟨rfl, -⟩ := h
      decide

/-- A segment of a shape has one name. -/
theorem Spells.name_unique (h : shape.Spells name segment)
    (hOther : shape.Spells otherName segment) : name = otherName := by
  cases shape with
  | plain => exact h.1.symm.trans hOther.1
  | braced =>
      have hSame := h.1.symm.trans hOther.1
      rw [String.append_left_inj, String.append_right_inj] at hSame
      exact hSame
  | dotted =>
      obtain ⟨⟨front, rfl⟩, hWord⟩ := h
      obtain ⟨⟨otherFront, hSame⟩, hOtherWord⟩ := hOther
      -- The full stop in front of a word is the last one of the segment.
      have hSplit := Text.splitAtLast?_append (hWord.mark_not_mem '.' rfl) front.toList
      have hOtherSplit :=
        Text.splitAtLast?_append (hOtherWord.mark_not_mem '.' rfl) otherFront.toList
      have hTexts : front.toList ++ '.' :: name.toList =
          otherFront.toList ++ '.' :: otherName.toList := by
        simpa [← String.toList_inj] using hSame
      rw [hTexts, hOtherSplit] at hSplit
      simp only [Option.some.injEq, Prod.mk.injEq, String.toList_inj] at hSplit
      exact hSplit.2.symm
  | metadata => exact h.2.trans hOther.2.symm

/-- The segments that have a shape, and their names. -/
theorem exists_spells_iff :
    (∃ shape, Spells shape name segment) ↔
      IsPlainWord name ∧ (segment = name ∨ segment = "\x7b" ++ name ++ "\x7d" ∨
        ∃ front, segment = front ++ "." ++ name) ∨
      segment = "$metadata" ∧ name = "metadata" := by
  constructor
  · intro hSome
    obtain ⟨shape, hName⟩ := hSome
    cases shape with
    | plain => exact .inl ⟨hName.2, .inl hName.1⟩
    | braced => exact .inl ⟨hName.2, .inr (.inl hName.1)⟩
    | dotted => exact .inl ⟨hName.2, .inr (.inr hName.1)⟩
    | metadata => exact .inr hName
  · rintro (⟨hWord, hPlain | hBraced | hDotted⟩ | hMetadata)
    · exact ⟨plain, hPlain, hWord⟩
    · exact ⟨braced, hBraced, hWord⟩
    · exact ⟨dotted, hDotted, hWord⟩
    · exact ⟨metadata, hMetadata⟩

/-- The name of a segment is a word. -/
theorem Spells.isPlainWord (h : shape.Spells name segment) : IsPlainWord name := by
  cases shape with
  | plain => exact h.2
  | braced => exact h.2
  | dotted => exact h.2
  | metadata =>
      rw [h.2]
      exact isModelText_iff.1 rfl

/-! ## The patterns -/

/-- The pattern that is for a shape. -/
def pattern (shape : SegmentShape) : SegmentPattern :=
  let named (body : Pattern) : Pattern := .group 1 (some SegmentPattern.nameGroup) body
  let word : Pattern := .repeated 1 none true (.one lettersAndDigits)
  match shape with
  | plain => ⟨.seq (.boundary .textStart) (.seq (named word) (.boundary .textEnd))⟩
  | braced => ⟨.seq (.boundary .textStart) (.seq (.literal "\x7b".toList)
      (.seq (named word) (.seq (.literal "\x7d".toList) (.boundary .textEnd))))⟩
  | dotted => ⟨.seq (.literal ".".toList) (.seq (named word) (.boundary .textEnd))⟩
  | metadata => ⟨.seq (.boundary .textStart) (.seq (.literal "$".toList)
      (.seq (named (.literal "metadata".toList)) (.boundary .textEnd)))⟩

/-- The pattern that is for a shape finds the segments of the shape, and its group holds the
name. -/
theorem finds_pattern (shape : SegmentShape) :
    shape.pattern.pattern.Finds shape.Spells fun name =>
      [(SegmentPattern.nameGroup, name.toList)] := by
  have hWord := Pattern.takesParts_group readsAll_word SegmentPattern.nameGroup
  cases shape with
  | plain => exact hWord.finds_start
  | braced =>
      have hBraced := Pattern.takesParts_group_before readsAll_word SegmentPattern.nameGroup "\x7d"
      refine (hBraced.behind "\x7b").finds_start.congr fun name segment => ?_
      simp [Spells, String.append_assoc]
  | dotted =>
      refine (hWord.behind ".").finds_end.congr fun name segment => ?_
      simp [Spells, String.append_assoc]
  | metadata =>
      have hText : Pattern.ReadsAll (.literal "metadata".toList) fun text =>
          String.ofList text = "metadata" := by
        refine (Pattern.readsAll_literal _).congr fun text => ?_
        rw [← String.toList_inj, String.toList_ofList (l := text)]
      have hMetadata : Pattern.TakesParts _ (fun part name => name = part ∧ part = "metadata") _ :=
        Pattern.takesParts_group hText SegmentPattern.nameGroup
      refine (hMetadata.behind "$").finds_start.congr fun name segment => ?_
      show (∃ back, segment = "$" ++ back ∧ back = name ∧ name = "metadata") ↔
        segment = "$metadata" ∧ name = "metadata"
      constructor
      · rintro ⟨_, rfl, rfl, rfl⟩
        exact ⟨rfl, rfl⟩
      · rintro ⟨rfl, rfl⟩
        exact ⟨_, rfl, rfl, rfl⟩

theorem matches_pattern_iff :
    shape.pattern.Matches segment ↔ ∃ name, shape.Spells name segment := by
  constructor
  · intro hMatches
    obtain ⟨held, hSearch⟩ := hMatches
    obtain ⟨name, hName, -⟩ := shape.finds_pattern.sound hSearch
    exact ⟨name, hName⟩
  · intro hName
    obtain ⟨name, hName⟩ := hName
    exact shape.finds_pattern.complete hName

theorem name?_pattern_eq_some_iff :
    shape.pattern.name? segment = some name ↔ shape.Spells name segment :=
  shape.finds_pattern.capture?_eq_some_iff fun _ _ => Spells.name_unique

end SegmentShape

namespace SegmentNames

open SegmentShape

variable {segment name : String}

theorem patterns_usual : usual.patterns = [plain, braced, dotted, metadata].map pattern := by
  rfl

/-- No two patterns of the usual settings match the same segment. -/
theorem pairwise_usual (segment : String) :
    usual.patterns.Pairwise fun first second =>
      ¬(first.Matches segment ∧ second.Matches segment) := by
  have hShapes : [plain, braced, dotted, metadata].Nodup := by decide
  rw [patterns_usual, List.pairwise_map]
  refine hShapes.imp fun {first second} hApart hBoth => hApart ?_
  obtain ⟨name, hFirst⟩ := matches_pattern_iff.1 hBoth.1
  obtain ⟨other, hSecond⟩ := matches_pattern_iff.1 hBoth.2
  exact hFirst.eq_ofSegment.trans hSecond.eq_ofSegment.symm

/-- All patterns of the usual settings that find a name find the same. -/
theorem agree_usual (segment : String) : Agree (·.name? segment) usual.patterns := by
  intro first hFirst second hSecond name other hName hOther
  rw [patterns_usual, List.mem_map] at hFirst hSecond
  obtain ⟨shape, -, rfl⟩ := hFirst
  obtain ⟨otherShape, -, rfl⟩ := hSecond
  have hName := name?_pattern_eq_some_iff.1 hName
  have hOther := name?_pattern_eq_some_iff.1 hOther
  obtain rfl : shape = otherShape := hName.eq_ofSegment.trans hOther.eq_ofSegment.symm
  exact hName.name_unique hOther

/-- What a segment is called in the usual settings. -/
theorem name?_usual_iff :
    usual.name? segment = some name ↔ ∃ shape, SegmentShape.Spells shape name segment := by
  rw [SegmentNames.name?, findSome?_eq_some_iff_of_agree (agree_usual segment), patterns_usual]
  simp only [List.mem_map, exists_exists_and_eq_and, name?_pattern_eq_some_iff]
  constructor
  · intro hSome
    obtain ⟨shape, -, hName⟩ := hSome
    exact ⟨shape, hName⟩
  · intro hSome
    obtain ⟨shape, hName⟩ := hSome
    exact ⟨shape, by cases shape <;> decide, hName⟩

/-- In the usual settings at most one pattern matches a segment, so they may be tried in any order.
A segment is called by a word that it is, or that it has in braces or behind a full stop at its
end, and one segment has a name of its own. A name can be written in small letters unless it begins
with a digit. -/
theorem segments_read_in_one_way :
    ∃ names, SegmentNames.ofSettings .default = .ok names ∧ ∀ segment : String,
      (names.patterns.Pairwise fun first second =>
        ¬(first.Matches segment ∧ second.Matches segment)) ∧
      (∀ patterns, patterns.Perm names.patterns →
        SegmentNames.name? ⟨patterns⟩ segment = names.name? segment) ∧
      (∀ name, names.name? segment = some name ↔
        IsPlainWord name ∧ (segment = name ∨ segment = "\x7b" ++ name ++ "\x7d" ∨
          ∃ front, segment = front ++ "." ++ name) ∨
        segment = "$metadata" ∧ name = "metadata") ∧
      ∀ name, names.name? segment = some name →
        ((∃ text, (Identifier.ofLabel name).render .snake = .ok text) ↔ ¬LedByDigit name) := by
  refine ⟨usual, ofSettings_default, fun segment => ⟨pairwise_usual segment, ?_, ?_, ?_⟩⟩
  · intro patterns hPerm
    exact findSome?_eq_of_perm hPerm.symm (agree_usual segment)
  · intro name
    rw [name?_usual_iff, exists_spells_iff]
  · intro name hName
    obtain ⟨shape, hSpells⟩ := name?_usual_iff.1 hName
    exact hSpells.isPlainWord.isModuleLabel.exists_render_iff .snake

theorem reset_named :
    ∃ names, SegmentNames.ofSettings .default = .ok names ∧
      names.name? "\x7bA\x7d.1.Reset" = some "Reset" ∧
      SegmentNames.name? ⟨names.patterns.reverse⟩ "\x7bA\x7d.1.Reset" = some "Reset" ∧
      ∃ text, (Identifier.ofLabel "Reset").render .snake = .ok text := by
  obtain ⟨names, hNames, hAll⟩ := segments_read_in_one_way
  obtain ⟨-, hOrder, hLanguage, hWritten⟩ := hAll "\x7bA\x7d.1.Reset"
  have hWord : IsPlainWord "Reset" := isModelText_iff.1 rfl
  have hName : names.name? "\x7bA\x7d.1.Reset" = some "Reset" :=
    (hLanguage "Reset").2 (.inl ⟨hWord, .inr (.inr ⟨"\x7bA\x7d.1", by decide⟩)⟩)
  refine ⟨names, hNames, hName, ?_, (hWritten "Reset" hName).2 (by decide)⟩
  rw [hOrder _ (List.reverse_perm _), hName]

end SegmentNames

end CratePlan
