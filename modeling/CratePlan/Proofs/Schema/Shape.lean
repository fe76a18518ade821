import CratePlan.Proofs.Words
import CratePlan.Schema.Name

/-!
# What names of a shape consist of

Names are taken apart from their end, and each step checks the parts that it has. Read
forwards, the parts stand in the name with underscores between them. All of them are
ASCII text.

## Main statements

* `VersionedName.text_eq`, `UnversionedName.text_eq`: a name is put together from its parts.
* `ascii_of_isModuleText`, `IsVersionText.ascii`: which characters the parts have.
* `IsVersionText.not_isSpoken`: the words of a version are unlike those of a model.
-/

namespace CratePlan

open CratePlan.Text

/-- The text is a version: a small `v` and three numbers with underscores between them. -/
def IsVersionText (text : List Char) : Prop :=
  ∃ major minor patch, text = major ++ '_' :: (minor ++ '_' :: patch) ∧
    isVersionStart major = true ∧ isVersionNumber minor = true ∧ isVersionNumber patch = true

/-! ## The parts of a name -/

/-- An unversioned name is its module and its model with an underscore between them. -/
theorem UnversionedName.text_eq {name : String} {parts : UnversionedName}
    (h : UnversionedName.ofText? name = some parts) :
    name.toList = parts.module.toList ++ '_' :: parts.model.toList ∧
      isModuleText parts.module.toList = true ∧ isModelText parts.model.toList = true := by
  obtain ⟨⟨module, model⟩, hSplit, hRest⟩ := Option.bind_eq_some_iff.1 h
  obtain ⟨hShape, hParts⟩ := Option.ite_none_right_eq_some.1 hRest
  cases hParts
  have hText : name.toList = module ++ '_' :: model := append_of_splitAtLast? hSplit
  simpa [hText] using hShape

/-- A versioned name has its version between the module and the model. -/
theorem VersionedName.text_eq {name : String} {parts : VersionedName}
    (h : VersionedName.ofText? name = some parts) :
    name.toList =
        parts.module.toList ++ '_' :: (parts.version.toList ++ '_' :: parts.model.toList) ∧
      isModuleText parts.module.toList = true ∧ IsVersionText parts.version.toList ∧
        isModelText parts.model.toList = true := by
  obtain ⟨⟨upToPatch, model⟩, hModel, hRest⟩ := Option.bind_eq_some_iff.1 h
  obtain ⟨⟨upToMinor, patch⟩, hPatch, hRest⟩ := Option.bind_eq_some_iff.1 hRest
  obtain ⟨⟨upToMajor, minor⟩, hMinor, hRest⟩ := Option.bind_eq_some_iff.1 hRest
  obtain ⟨⟨module, major⟩, hMajor, hRest⟩ := Option.bind_eq_some_iff.1 hRest
  obtain ⟨hShape, hParts⟩ := Option.ite_none_right_eq_some.1 hRest
  cases hParts
  simp only [Bool.and_eq_true] at hShape
  obtain ⟨⟨⟨⟨hModuleText, hMajorText⟩, hMinorText⟩, hPatchText⟩, hModelText⟩ := hShape
  have hText : name.toList = module ++ '_' :: ((major ++ '_' :: (minor ++ '_' :: patch)) ++
      '_' :: model) := by
    rw [append_of_splitAtLast? hModel, append_of_splitAtLast? hPatch,
      append_of_splitAtLast? hMinor, append_of_splitAtLast? hMajor]
    simp
  have hVersion : IsVersionText (major ++ '_' :: (minor ++ '_' :: patch)) :=
    ⟨major, minor, patch, rfl, hMajorText, hMinorText, hPatchText⟩
  exact ⟨by simpa using hText, by simpa using hModuleText, by simpa using hVersion,
    by simpa using hModelText⟩

/-! ## Their characters -/

theorem ascii_of_all_isAlphanum {text : List Char} (h : text.all Char.isAlphanum = true) :
    ∀ c ∈ text, c.toNat < 128 :=
  fun c hc => ascii_of_isAlphanum (List.all_eq_true.1 h c hc)

theorem all_isAlphanum_of_isModelText {text : List Char} (h : isModelText text = true) :
    text.all Char.isAlphanum = true :=
  (Bool.and_eq_true_iff.1 h).2

theorem ascii_of_isModuleText {text : List Char} (h : isModuleText text = true) :
    ∀ c ∈ text, c.toNat < 128 := by
  cases text with
  | nil => simp
  | cons first rest =>
      simp only [isModuleText, Bool.and_eq_true, List.all_eq_true, Bool.or_eq_true,
        beq_iff_eq] at h
      obtain ⟨hFirst, hRest⟩ := h
      refine List.forall_mem_cons.2 ⟨ascii_of_isAlphanum hFirst, fun c hc => ?_⟩
      rcases hRest c hc with (hAlphanum | rfl) | rfl
      · exact ascii_of_isAlphanum hAlphanum
      · decide
      · decide

theorem all_isAlphanum_of_isVersionNumber {text : List Char} (h : isVersionNumber text = true) :
    text.all Char.isAlphanum = true := by
  have hDigits : text.all Char.isDigit = true := (Bool.and_eq_true_iff.1 h).2
  refine List.all_eq_true.2 fun c hc => ?_
  have hDigit : c.isDigit = true := List.all_eq_true.1 hDigits c hc
  simp [Char.isAlphanum, hDigit]

theorem all_isAlphanum_of_isVersionStart {text : List Char} (h : isVersionStart text = true) :
    text.all Char.isAlphanum = true := by
  unfold isVersionStart at h
  split at h
  case h_1 number =>
      have hNumber := all_isAlphanum_of_isVersionNumber h
      have hLetter : 'v'.isAlphanum = true := by decide
      simp [hLetter, hNumber]
  case h_2 => cases h

theorem IsVersionText.ascii {text : List Char} (h : IsVersionText text) :
    ∀ c ∈ text, c.toNat < 128 := by
  obtain ⟨major, minor, patch, rfl, hMajor, hMinor, hPatch⟩ := h
  have hMajor := ascii_of_all_isAlphanum (all_isAlphanum_of_isVersionStart hMajor)
  have hMinor := ascii_of_all_isAlphanum (all_isAlphanum_of_isVersionNumber hMinor)
  have hPatch := ascii_of_all_isAlphanum (all_isAlphanum_of_isVersionNumber hPatch)
  have hMark : '_'.toNat < 128 := by decide
  simp only [List.forall_mem_append, List.forall_mem_cons]
  exact ⟨hMajor, hMark, hMinor, hMark, hPatch⟩

/-! ## The words of a version -/

/-- A number of a version has a word that does not begin with a letter. -/
theorem exists_not_spoken_of_isVersionNumber {text : List Char} (h : isVersionNumber text = true) :
    ∃ piece ∈ Words.pieces text, ¬Words.IsSpoken [Words.lowered piece] := by
  obtain ⟨hSome, hDigits⟩ := Bool.and_eq_true_iff.1 h
  have hLetters := all_isAlphanum_of_isVersionNumber h
  have hFlat : (Words.pieces text).flatten = text := by
    rw [Words.flatten_pieces, List.filter_eq_self]
    intro c hc
    simpa using (alphanum_cases (List.all_eq_true.1 hLetters c hc)).1
  obtain ⟨piece, hPiece⟩ : ∃ piece, piece ∈ Words.pieces text := by
    refine List.exists_mem_of_ne_nil _ fun hNil => ?_
    rw [hNil, List.flatten_nil] at hFlat
    simp [← hFlat] at hSome
  refine ⟨piece, hPiece, fun hSpoken => ?_⟩
  obtain ⟨first, rest, rfl⟩ := List.exists_cons_of_ne_nil (Words.pieces_ne_nil hPiece)
  have hMem : ∀ c ∈ first :: rest, c ∈ text := fun c hc => Words.mem_of_mem_pieces hPiece hc
  obtain ⟨hWord, -⟩ :=
    Words.toList_lowered_cons fun c hc => List.all_eq_true.1 hLetters c (hMem c hc)
  obtain ⟨c, more, hText, hLower, -⟩ := hSpoken _ (List.mem_singleton.2 rfl)
  have hDigit : first.isDigit = true := List.all_eq_true.1 hDigits first (hMem first (by simp))
  have hFirst : c = first := by
    rw [hWord] at hText
    have hSame := (alphanum_cases (isAlphanum_of_small (.inr hDigit))).2.2.2.2 (.inr hDigit)
    rw [← hSame.2]
    exact (List.cons.inj hText).1.symm
  have hNotBoth := forall_ascii (p := fun c => !(c.isLower && c.isDigit)) (by decide +kernel)
    (ascii_of_isAlphanum (isAlphanum_of_small (.inr hDigit)))
  simp [← hFirst, hLower, hFirst ▸ hDigit] at hNotBoth

/-- A version is not called like a model: its numbers do not begin with letters. -/
theorem IsVersionText.not_isSpoken {text : List Char} (h : IsVersionText text) :
    ¬Words.IsSpoken (Words.ofLabel (String.ofList text)) := by
  obtain ⟨major, minor, patch, rfl, -, hMinor, -⟩ := h
  obtain ⟨piece, hPiece, hNot⟩ := exists_not_spoken_of_isVersionNumber hMinor
  have hMark : Words.isSeparator '_' = true := rfl
  intro hSpoken
  refine hNot fun word hWord => hSpoken word ?_
  rw [List.mem_singleton.1 hWord, Words.ofLabel, String.toList_ofList,
    Words.pieces_append_separator hMark, Words.pieces_append_separator hMark]
  exact List.mem_map_of_mem (List.mem_append_right _ (List.mem_append_left _ hPiece))

end CratePlan
