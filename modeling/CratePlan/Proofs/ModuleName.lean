import CratePlan.Keyword
import CratePlan.Proofs.Lowercase

/-!
# Names of modules

The name of a module is written as its words with underscores between them, and a reserved
word gets a mark, `r#` in front of it or an underscore behind it. To know the words from
what is written, all of this has to be undone. No word has an underscore, so the words are
told apart by them. No word is empty, so that no underscore stands at the end but the one
that marks a reserved word. And a number sign stands in no word.

For this it takes two conditions: identifiers have no empty words, and those that can be
written consist of letters and digits. Words that no identifier has may fail the first:
`self` and an empty word would be written as the reserved word `self` is.

## Main statements

* `Text.intercalate_inj`: texts are told apart by what stands between them.
* `Words.NamesModule.display_inj`: the display of words determines them.
* `Words.NamesModule.moduleName_inj`: so does what is written for a module.
-/

namespace CratePlan

/-! ## Texts with a separator between them -/

namespace Text

variable {marks : Char → Bool}

/-- Texts without marks end where the first mark stands. -/
theorem append_inj_of_head? {start other rest otherRest : List Char}
    (hStart : ∀ c ∈ start, marks c = false) (hOther : ∀ c ∈ other, marks c = false)
    (hRest : rest.head?.all marks = true) (hOtherRest : otherRest.head?.all marks = true)
    (h : start ++ rest = other ++ otherRest) : start = other ∧ rest = otherRest := by
  have hSame : start = other := by
    rw [← Words.takeWhile_append_of_head? hStart hRest, h,
      Words.takeWhile_append_of_head? hOther hOtherRest]
  rw [hSame] at h
  exact ⟨hSame, List.append_cancel_left h⟩

/-- The first text, and behind it each other one with the separator in front. -/
theorem intercalate_cons_eq (separator first : List Char) (texts : List (List Char)) :
    separator.intercalate (first :: texts) =
      first ++ texts.flatMap fun text => separator ++ text := by
  induction texts generalizing first with
  | nil => simp
  | cons next texts ih =>
      rw [List.intercalate_cons_cons, ih next, List.flatMap_cons]
      simp only [List.append_assoc]

theorem head?_flatMap_append {mark : Char} {more : List Char} (hMark : marks mark = true)
    (texts : List (List Char)) :
    (texts.flatMap fun text => (mark :: more) ++ text).head?.all marks = true := by
  cases texts with
  | nil => rfl
  | cons text texts => simpa using hMark

/-- Texts without marks are determined by what they make, each behind a separator that begins
with a mark. -/
theorem flatMap_append_inj {mark : Char} {more : List Char} (hMark : marks mark = true)
    {texts : List (List Char)} (hTexts : ∀ text ∈ texts, ∀ c ∈ text, marks c = false) :
    ∀ {others : List (List Char)}, (∀ text ∈ others, ∀ c ∈ text, marks c = false) →
      (texts.flatMap fun text => (mark :: more) ++ text) =
        (others.flatMap fun text => (mark :: more) ++ text) → texts = others := by
  induction texts with
  | nil =>
      intro others _ h
      cases others with
      | nil => rfl
      | cons other others => simp at h
  | cons text texts ih =>
      intro others hOthers h
      obtain ⟨hText, hTexts⟩ := List.forall_mem_cons.1 hTexts
      cases others with
      | nil => simp at h
      | cons other others =>
          obtain ⟨hOther, hOthers⟩ := List.forall_mem_cons.1 hOthers
          rw [List.flatMap_cons, List.flatMap_cons, List.append_assoc, List.append_assoc] at h
          obtain ⟨hSame, hRest⟩ := append_inj_of_head? hText hOther
            (head?_flatMap_append hMark texts) (head?_flatMap_append hMark others)
            (List.append_cancel_left h)
          rw [hSame, ih hTexts hOthers hRest]

/-- Texts without marks are determined by what they make with a separator between them, if
that begins with a mark. -/
theorem intercalate_inj {mark : Char} {more : List Char} (hMark : marks mark = true)
    {texts others : List (List Char)} (hTexts : ∀ text ∈ texts, ∀ c ∈ text, marks c = false)
    (hOthers : ∀ text ∈ others, ∀ c ∈ text, marks c = false) (hSome : texts ≠ [])
    (hOtherSome : others ≠ [])
    (h : (mark :: more).intercalate texts = (mark :: more).intercalate others) :
    texts = others := by
  obtain ⟨text, texts, rfl⟩ := List.exists_cons_of_ne_nil hSome
  obtain ⟨other, others, rfl⟩ := List.exists_cons_of_ne_nil hOtherSome
  obtain ⟨hText, hTexts⟩ := List.forall_mem_cons.1 hTexts
  obtain ⟨hOther, hOthers⟩ := List.forall_mem_cons.1 hOthers
  rw [intercalate_cons_eq, intercalate_cons_eq] at h
  obtain ⟨hSame, hRest⟩ := append_inj_of_head? hText hOther
    (head?_flatMap_append hMark texts) (head?_flatMap_append hMark others) h
  rw [hSame, flatMap_append_inj hMark hTexts hOthers hRest]

/-- A character of texts with a separator between them. -/
theorem mem_intercalate {separator : List Char} {texts : List (List Char)} {c : Char}
    (h : c ∈ separator.intercalate texts) : c ∈ separator ∨ ∃ text ∈ texts, c ∈ text := by
  cases texts with
  | nil => simp at h
  | cons first texts =>
      rw [intercalate_cons_eq, List.mem_append, List.mem_flatMap] at h
      rcases h with hFirst | ⟨text, hText, hc⟩
      · exact .inr ⟨first, List.mem_cons_self .., hFirst⟩
      · rcases List.mem_append.1 hc with hSeparator | hc
        · exact .inl hSeparator
        · exact .inr ⟨text, List.mem_cons_of_mem _ hText, hc⟩

/-- What texts make with a separator between them ends as one of them does. -/
theorem exists_getLast?_intercalate {separator first : List Char} {texts : List (List Char)}
    (hTexts : ∀ text ∈ first :: texts, text ≠ []) :
    ∃ last ∈ first :: texts,
      (separator.intercalate (first :: texts)).getLast? = last.getLast? := by
  induction texts generalizing first with
  | nil => exact ⟨first, by simp, by simp⟩
  | cons next texts ih =>
      obtain ⟨-, hRest⟩ := List.forall_mem_cons.1 hTexts
      obtain ⟨last, hLast, hEnd⟩ := ih hRest
      have hSome : last.getLast?.isSome = true := by simpa using hRest last hLast
      refine ⟨last, List.mem_cons_of_mem _ hLast, ?_⟩
      rw [List.intercalate_cons_cons, List.getLast?_append, hEnd, Option.or_of_isSome hSome]

end Text

/-! ## The words of identifiers -/

/-- Identifiers are read from labels, or put together from words. -/
inductive Identifier.Made : Identifier → Prop where
  | ofLabel (label : String) : Made (Identifier.ofLabel label)
  | ofWords (words : List String) : Made (Identifier.ofWords words)

/-- No word of an identifier is empty. -/
theorem Identifier.Made.word_ne_empty {identifier : Identifier} (h : identifier.Made) :
    ∀ word ∈ identifier.words, word.toList ≠ [] := by
  cases h with
  | ofLabel label =>
      intro word hWord
      obtain ⟨piece, hPiece, rfl⟩ := List.mem_map.1 hWord
      rw [Words.lowered, String.toList_ofList]
      exact Text.lowercase_ne_nil (Words.pieces_ne_nil hPiece)
  | ofWords words =>
      intro word hWord
      have hKept := (List.mem_filter.1 hWord).2
      simpa using hKept

namespace Words

/-- Words of an identifier that can be written, so that a module may be named by them. -/
def NamesModule (words : Words) : Prop :=
  ∃ identifier : Identifier, identifier.Made ∧ identifier.words = words ∧
    ∃ text, identifier.render .snake = .ok text

theorem NamesModule.writable {words : Words} (h : words.NamesModule) : words.writable = true := by
  obtain ⟨identifier, -, rfl, text, hText⟩ := h
  exact (Identifier.render_eq_ok_iff.1 hText).1

theorem namesModule_of_writable {identifier : Identifier} (hMade : identifier.Made)
    (hWritable : identifier.words.writable = true) : identifier.words.NamesModule :=
  ⟨identifier, hMade, rfl, _, Identifier.render_eq_ok_iff.2 ⟨hWritable, rfl⟩⟩

/-- A module may be named by the words of a label that can be written. -/
theorem namesModule_ofLabel {label : String} (h : (ofLabel label).writable = true) :
    (ofLabel label).NamesModule :=
  namesModule_of_writable (.ofLabel label) h

/-- Words that can be written consist of letters and digits. -/
theorem isAlphanum_of_writable {words : Words} (h : words.writable = true) :
    ∀ word ∈ words, ∀ c ∈ word.toList, c.isAlphanum = true := by
  cases words with
  | nil => cases h
  | cons first rest =>
      simp only [Words.writable, Bool.and_eq_true, List.all_eq_true] at h
      exact h.2

theorem ne_nil_of_writable {words : Words} (h : words.writable = true) : words ≠ [] := by
  rintro rfl
  cases h

theorem NamesModule.word_ne_empty {words : Words} (h : words.NamesModule) :
    ∀ word ∈ words, word.toList ≠ [] := by
  obtain ⟨identifier, hMade, rfl, -⟩ := h
  exact hMade.word_ne_empty

/-! ## Their display -/

theorem toList_display (words : Words) :
    words.display.toList = ['_'].intercalate (words.map String.toList) :=
  String.toList_intercalate

/-- The display of words has letters, digits and underscores. -/
theorem isAlphanum_or_of_mem_display {words : Words} (h : words.writable = true) {c : Char}
    (hc : c ∈ words.display.toList) : c.isAlphanum = true ∨ c = '_' := by
  rw [toList_display] at hc
  rcases Text.mem_intercalate hc with hMark | ⟨text, hText, hc⟩
  · exact .inr (List.mem_singleton.1 hMark)
  · obtain ⟨word, hWord, rfl⟩ := List.mem_map.1 hText
    exact .inl (isAlphanum_of_writable h word hWord c hc)

/-- The display of words determines them. -/
theorem display_inj {words others : Words} (h : words.writable = true)
    (hOther : others.writable = true) (hDisplay : words.display = others.display) :
    words = others := by
  have hPlain : ∀ {words : Words}, words.writable = true →
      ∀ text ∈ words.map String.toList, ∀ c ∈ text, ('_' == c) = false := by
    intro words hWords text hText c hc
    obtain ⟨word, hWord, rfl⟩ := List.mem_map.1 hText
    have hLetter := isAlphanum_of_writable hWords word hWord c hc
    exact beq_false_of_ne (by rintro rfl; cases hLetter)
  have hJoined : ['_'].intercalate (words.map String.toList) =
      ['_'].intercalate (others.map String.toList) := by
    rw [← toList_display, ← toList_display, hDisplay]
  have hMark : ('_' == '_') = true := rfl
  have hTexts : words.map String.toList = others.map String.toList :=
    Text.intercalate_inj hMark (hPlain h) (hPlain hOther)
      (by simpa using ne_nil_of_writable h) (by simpa using ne_nil_of_writable hOther) hJoined
  exact List.map_injective_iff.2 (fun _ _ => String.toList_inj.1) hTexts

/-- The first word begins with a letter. -/
theorem NamesModule.exists_eq_cons {words : Words} (h : words.NamesModule) :
    ∃ first others c rest, words = first :: others ∧ first.toList = c :: rest ∧
      c.isAlpha = true := by
  obtain ⟨first, others, rfl⟩ := List.exists_cons_of_ne_nil (ne_nil_of_writable h.writable)
  obtain ⟨c, rest, hFirst⟩ := List.exists_cons_of_ne_nil (h.word_ne_empty first (by simp))
  have hLetter : c.isAlphanum = true :=
    isAlphanum_of_writable h.writable first (by simp) c (by simp [hFirst])
  have hDigit : c.isDigit = false := by
    have hWritable := h.writable
    simp only [Words.writable, hFirst, List.head?_cons, Option.any_some, Bool.and_eq_true,
      Bool.not_eq_true'] at hWritable
    exact hWritable.1
  exact ⟨first, others, c, rest, rfl, hFirst, by simpa [Char.isAlphanum, hDigit] using hLetter⟩

/-- The display of words begins with a letter. -/
theorem NamesModule.exists_display_eq_cons {words : Words} (h : words.NamesModule) :
    ∃ c rest, words.display.toList = c :: rest ∧ c.isAlpha = true ∧
      ∀ d ∈ rest, d.isAlphanum = true ∨ d = '_' := by
  obtain ⟨first, others, c, more, rfl, hFirst, hLetter⟩ := h.exists_eq_cons
  have hDisplay : (display (first :: others)).toList =
      c :: (more ++ (others.map String.toList).flatMap fun text => ['_'] ++ text) := by
    rw [toList_display, List.map_cons, Text.intercalate_cons_eq, hFirst, List.cons_append]
  refine ⟨c, _, hDisplay, hLetter, fun d hd => ?_⟩
  exact isAlphanum_or_of_mem_display h.writable (hDisplay ▸ List.mem_cons_of_mem _ hd)

/-- No underscore ends the display of words. -/
theorem NamesModule.getLast?_display {words : Words} (h : words.NamesModule) :
    words.display.toList.getLast? ≠ some '_' := by
  obtain ⟨first, rest, rfl⟩ := List.exists_cons_of_ne_nil (ne_nil_of_writable h.writable)
  have hSome : ∀ text ∈ first.toList :: rest.map String.toList, text ≠ [] := by
    simpa using h.word_ne_empty
  obtain ⟨last, hLast, hEnd⟩ := Text.exists_getLast?_intercalate hSome
  rw [← List.map_cons] at hLast hEnd
  obtain ⟨word, hWord, rfl⟩ := List.mem_map.1 hLast
  rw [toList_display, hEnd]
  intro hMark
  have hLetter := isAlphanum_of_writable h.writable word hWord '_' (List.mem_of_getLast? hMark)
  cases hLetter

/-! ## What is written for a module -/

/-- A name without the mark that it may have as a reserved word. -/
def unmarked (text : String) : List Char :=
  match text.toList with
  | 'r' :: '#' :: name => name
  | name => if name.getLast? = some '_' then name.dropLast else name

/-- The mark of a reserved word is taken off again, if the name has no number sign and no
underscore at its end. -/
theorem unmarked_escapeKeyword {name : String} (hSign : '#' ∉ name.toList)
    (hLast : name.toList.getLast? ≠ some '_') : unmarked (escapeKeyword name) = name.toList := by
  have hKept : ∀ {text : List Char}, '#' ∉ text → ∀ rest, text ≠ 'r' :: '#' :: rest := by
    rintro _ hText rest rfl
    simp at hText
  unfold escapeKeyword
  split
  case isTrue =>
      have hText : (name ++ "_").toList = name.toList ++ ['_'] := String.toList_append
      have hNoSign : '#' ∉ name.toList ++ ['_'] := by simpa using hSign
      unfold unmarked
      rw [hText]
      split
      case h_1 rest hMarked => exact absurd hMarked (hKept hNoSign rest)
      case h_2 => simp
  case isFalse =>
      split
      case isTrue =>
          have hText : ("r#" ++ name).toList = 'r' :: '#' :: name.toList := String.toList_append
          simp only [unmarked, hText]
      case isFalse =>
          unfold unmarked
          split
          case h_1 rest hMarked => exact absurd hMarked (hKept hSign rest)
          case h_2 => rw [if_neg hLast]

/-- What is written for a module determines its words. -/
theorem NamesModule.moduleName_inj {words others : Words} (h : words.NamesModule)
    (hOther : others.NamesModule) (hName : words.moduleName = others.moduleName) :
    words = others := by
  have hRead : ∀ {words : Words}, words.NamesModule →
      unmarked words.moduleName = words.display.toList := by
    intro words hWords
    refine unmarked_escapeKeyword (fun hSign => ?_) hWords.getLast?_display
    rcases isAlphanum_or_of_mem_display hWords.writable hSign with hLetter | hMark
    · cases hLetter
    · cases hMark
  have hDisplay : words.display.toList = others.display.toList := by
    rw [← hRead h, ← hRead hOther, hName]
  exact display_inj h.writable hOther.writable (String.toList_inj.1 hDisplay)

end Words

end CratePlan
