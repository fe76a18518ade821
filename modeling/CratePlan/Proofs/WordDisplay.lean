import CratePlan.Proofs.LegalName

/-!
# Names read back from their display

A name is displayed as its words with underscores between them, and the display is a label
again. When that label is read, the words come back. An underscore ends every word, so all
that could go wrong is that a word is cut or changed by itself: that it has a separator in it,
that a capital in it begins another word, or that its small letters are put in small letters
that are different ones. `IsSettled` says that nothing of this happens.

The words of a label are settled, whatever characters it has. Words that were split already
need not be: a word may have been given with a separator in it. Such a word cannot be written,
so that the words of a name that can are settled as well.

## Main statements

* `ofLabel_display`: settled words come back from their display.
* `isSettled_of_mem_ofLabel`, `NamesModule.isSettled`: which words are settled.
* `Identifier.words_of_display`: names are read back from their display, which is what is
  written of them in snake case.
-/

namespace CratePlan

open Text

namespace Words

/-! ## Words that stay what they are -/

/-- The word comes back when it is read as a label: it has characters and no separator among
them, and in small letters it is what it was. -/
structure IsSettled (word : String) : Prop where
  ne_nil : word.toList ≠ []
  plain : ∀ c ∈ word.toList, isSeparator c = false
  lowered_eq : lowered word.toList = word

/-- Without separators and capitals, what is read is one piece. -/
theorem piecesFrom_of_plain {label : List Char} (hPlain : ∀ c ∈ label, isSeparator c = false)
    (hCapital : ∀ c ∈ label, c.isUpper = false) :
    ∀ current, current ≠ [] → piecesFrom current label = [current.reverse ++ label] := by
  induction label with
  | nil =>
      intro current hCurrent
      simp [piecesFrom, finish, hCurrent]
  | cons c rest ih =>
      intro current hCurrent
      obtain ⟨hc, hRest⟩ := List.forall_mem_cons.1 hPlain
      obtain ⟨hSmall, hRestSmall⟩ := List.forall_mem_cons.1 hCapital
      have hNever : ∀ last, beginsWord last c rest = false := by simp [beginsWord, hSmall]
      have hNone : current.head?.any (beginsWord · c rest) = false := by simp [hNever]
      simp [piecesFrom, hc, hNone, ih hRest hRestSmall]

/-- A settled word is one piece, and that piece is the word. -/
theorem IsSettled.map_lowered_pieces {word : String} (h : IsSettled word) :
    (pieces word.toList).map lowered = [word] := by
  have hCapital : ∀ c ∈ word.toList, c.isUpper = false := by
    intro c hc
    rw [← h.lowered_eq, lowered, String.toList_ofList] at hc
    exact not_isUpper_of_mem_lowercase hc
  have hPlain := h.plain
  have hPiece : pieces word.toList = [word.toList] := by
    obtain ⟨c, rest, hText⟩ := List.exists_cons_of_ne_nil h.ne_nil
    rw [hText] at hPlain hCapital ⊢
    obtain ⟨hc, hRest⟩ := List.forall_mem_cons.1 hPlain
    simpa [pieces, piecesFrom, hc] using
      piecesFrom_of_plain hRest (List.forall_mem_cons.1 hCapital).2 [c] (by simp)
  rw [hPiece, List.map_singleton, h.lowered_eq]

/-- The words of a label are settled, of whatever characters they are. -/
theorem isSettled_of_mem_ofLabel {label word : String} (h : word ∈ ofLabel label) :
    IsSettled word := by
  have hSome := (Identifier.Made.ofLabel label).word_ne_empty word h
  obtain ⟨piece, hPiece, rfl⟩ := List.mem_map.1 h
  have hPlain : ∀ c ∈ piece, isSeparator c = false := by
    intro c hc
    have hKept : c ∈ (pieces label.toList).flatten := List.mem_flatten.2 ⟨piece, hPiece, hc⟩
    rw [flatten_pieces] at hKept
    simpa using (List.mem_filter.1 hKept).2
  refine ⟨hSome, fun c hc => ?_, ?_⟩
  · rw [lowered, String.toList_ofList] at hc
    exact isSeparator_of_mem_lowercase hPlain hc
  · rw [lowered, lowered, String.toList_ofList, lowercase_lowercase]

/-! ## Names of small letters and digits -/

/-- The text has small letters and digits only. -/
def IsSmall (text : List Char) : Prop :=
  ∀ c ∈ text, c.isLower = true ∨ c.isDigit = true

theorem IsSmall.isAlphanum {text : List Char} (h : IsSmall text) :
    ∀ c ∈ text, c.isAlphanum = true :=
  fun c hc => isAlphanum_of_small (h c hc)

/-- The words of a module are small, and none is empty. -/
theorem NamesModule.isSmall {words : Words} (h : words.NamesModule) :
    ∀ word ∈ words, word.toList ≠ [] ∧ IsSmall word.toList := by
  intro word hWord
  refine ⟨h.word_ne_empty word hWord, fun c hc => ?_⟩
  have hLetter := isAlphanum_of_writable h.writable word hWord c hc
  have hCapital : c.isUpper = false := by
    obtain ⟨identifier, hMade, rfl, -⟩ := h
    exact hMade.not_isUpper word hWord c hc
  simpa [Char.isAlphanum, Char.isAlpha, hCapital] using hLetter

/-- The words of a module are settled. -/
theorem NamesModule.isSettled {words : Words} (h : words.NamesModule) :
    ∀ word ∈ words, IsSettled word := by
  intro word hWord
  obtain ⟨hSome, hSmall⟩ := h.isSmall word hWord
  have hLetters := hSmall.isAlphanum
  refine ⟨hSome, fun c hc => (alphanum_cases (hLetters c hc)).1, ?_⟩
  rw [← String.toList_inj, toList_lowered fun c hc => ascii_of_isAlphanum (hLetters c hc),
    map_toLower_eq hSmall]

/-- In snake case the words of a module are spelled as they are displayed. -/
theorem NamesModule.spelled_snake_eq {words : Words} (h : words.NamesModule) :
    words.spelled .snake = words.display.toList := by
  have hWords : words.map small = words.map String.toList :=
    List.map_congr_left fun word hWord => map_toLower_eq (h.isSmall word hWord).2
  rw [spelled, toList_display, hWords]

/-! ## Words with underscores between them -/

/-- An underscore ends a piece. -/
theorem pieces_intercalate (texts : List (List Char)) :
    pieces (['_'].intercalate texts) = texts.flatMap pieces := by
  have hMark : isSeparator '_' = true := rfl
  induction texts with
  | nil => rfl
  | cons first texts ih =>
      cases texts with
      | nil => simp
      | cons next texts =>
          rw [List.intercalate_cons_cons, List.append_assoc, List.singleton_append,
            pieces_append_separator hMark, ih]
          rfl

theorem ofLabel_intercalate (texts : List (List Char)) :
    ofLabel (String.ofList (['_'].intercalate texts)) =
      texts.flatMap fun text => (pieces text).map lowered := by
  rw [ofLabel, String.toList_ofList, pieces_intercalate, List.map_flatMap]

/-- Settled words come back from their display. -/
theorem ofLabel_display {words : Words} (h : ∀ word ∈ words, IsSettled word) :
    ofLabel words.display = words := by
  have hWords : ∀ word ∈ words, (pieces word.toList).map lowered = [word] :=
    fun word hWord => (h word hWord).map_lowered_pieces
  rw [← String.ofList_toList (s := words.display), toList_display, ofLabel_intercalate,
    List.flatMap_map, List.flatMap_congr hWords, List.flatMap_singleton']

end Words

/-! ## Identifiers -/

namespace Identifier

/-- The name that a label spells is read back from its display. Where a name can be written,
snake case is its display, the name is read back from that, and no other name is written so. -/
theorem words_of_display :
    (∀ raw, (Identifier.ofLabel (Identifier.ofLabel raw).display).words =
      (Identifier.ofLabel raw).words) ∧
    ∀ (identifier : Identifier) (text : String), identifier.Made →
      identifier.render .snake = .ok text →
        text = identifier.display ∧ (Identifier.ofLabel text).words = identifier.words ∧
          ∀ other : Identifier, other.Made → other.render .snake = .ok text →
            other.words = identifier.words := by
  have hWritten : ∀ (identifier : Identifier) (text : String), identifier.Made →
      identifier.render .snake = .ok text →
        text = identifier.display ∧ (Identifier.ofLabel text).words = identifier.words := by
    intro identifier text hMade hText
    obtain ⟨hWritable, rfl⟩ := render_eq_ok_iff.1 hText
    have hNames := Words.namesModule_of_writable hMade hWritable
    have hDisplay : String.ofList (identifier.words.spelled .snake) = identifier.display := by
      rw [hNames.spelled_snake_eq, String.ofList_toList]
      rfl
    exact ⟨hDisplay, hDisplay ▸ Words.ofLabel_display hNames.isSettled⟩
  refine ⟨fun raw => Words.ofLabel_display fun _ => Words.isSettled_of_mem_ofLabel, ?_⟩
  intro identifier text hMade hText
  obtain ⟨hDisplay, hBack⟩ := hWritten identifier text hMade hText
  refine ⟨hDisplay, hBack, fun other hOther hOtherText => ?_⟩
  rw [← (hWritten other text hOther hOtherText).2, hBack]

/-- The first of these labels has letters beyond ASCII, and two blanks and a hyphen in it; the
second name is of words that were split already. -/
theorem words_of_display_displayed :
    (Identifier.ofLabel "ΟΔΟΣ  X-Ray").words = ["οδος", "x", "ray"] ∧
      (Identifier.ofLabel "οδος_x_ray").words = ["οδος", "x", "ray"] ∧
      (Identifier.ofWords ["Power", "V4"]).render .snake = .ok "power_v4" ∧
      (Identifier.ofLabel "power_v4").words = (Identifier.ofWords ["Power", "V4"]).words := by
  have hLabel : (Identifier.ofLabel "ΟΔΟΣ  X-Ray").words = ["οδος", "x", "ray"] := by
    decide +kernel
  have hText : (Identifier.ofWords ["Power", "V4"]).render .snake = .ok "power_v4" := by rfl
  have hDisplay : (Identifier.ofLabel "ΟΔΟΣ  X-Ray").display = "οδος_x_ray" := by
    decide +kernel
  have hBack := words_of_display.1 "ΟΔΟΣ  X-Ray"
  rw [hDisplay] at hBack
  exact ⟨hLabel, hBack.trans hLabel, hText,
    (words_of_display.2 _ _ (.ofWords ["Power", "V4"]) hText).2.1⟩

end Identifier

end CratePlan
