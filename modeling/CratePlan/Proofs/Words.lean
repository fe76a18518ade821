import CratePlan.CaseStyle
import Mathlib

/-!
# The words of plain labels

A label of ASCII characters loses two things when it is taken apart: its separators and
the size of its letters. What is left is put together from the words again, wherever the
cuts were. `bare` is what is left.

A label of letters and digits has no separators, so a word that is not the first begins
where a capital stands. Spelled as a type, such words are told apart again: each begins
with a capital and has no other one. So the spelling determines the words, if the first
of them begins with a letter too. For words in general this fails: `a1b` alone and `a`
before `1b` are spelled alike.

## Main statements

* `flatMap_ofLabel`: the words of a label, one after the other, are what is left of it.
* `isSpoken_ofLabel`: the words of letters and digits begin with letters.
* `spelled_pascal_inj`: such words are determined by their spelling as a type.
-/

namespace CratePlan

open CratePlan.Text

/-! ## ASCII characters -/

theorem ascii_of_isAlphanum {c : Char} (h : c.isAlphanum = true) : c.toNat < 128 := by
  simp only [Char.isAlphanum, Char.isAlpha, Char.isUpper, Char.isLower, Char.isDigit,
    Bool.or_eq_true, Bool.and_eq_true, decide_eq_true_eq, ge_iff_le, UInt32.le_iff_toNat_le] at h
  have hCode : c.toNat = c.val.toNat := rfl
  have hCapital : 'Z'.val.toNat = 90 := rfl
  have hSmall : 'z'.val.toNat = 122 := rfl
  have hDigit : '9'.val.toNat = 57 := rfl
  omega

/-- What holds of the ASCII characters one by one holds of each of them. -/
theorem forall_ascii {p : Char → Bool}
    (h : (List.range 128).all (fun code => p (Char.ofNat code)) = true) {c : Char}
    (hc : c.toNat < 128) : p c = true := by
  rw [← Char.ofNat_toNat c]
  exact List.all_eq_true.1 h c.toNat (List.mem_range.2 hc)

/-- Small letters and digits are letters and digits. -/
theorem isAlphanum_of_small {c : Char} (h : c.isLower = true ∨ c.isDigit = true) :
    c.isAlphanum = true := by
  rcases h with hLower | hDigit
  · simp [Char.isAlphanum, Char.isAlpha, hLower]
  · simp [Char.isAlphanum, hDigit]

/-- What a letter or digit is, and what it becomes in the other size. -/
theorem alphanum_cases {c : Char} (h : c.isAlphanum = true) :
    Words.isSeparator c = false ∧ (c.isUpper = true → c.toLower.isLower = true) ∧
      (c.toLower.isLower = true ∨ c.toLower.isDigit = true) ∧
      (c.isLower = true → c.toUpper.isUpper = true ∧ c.toUpper.toLower = c) ∧
      (c.isLower = true ∨ c.isDigit = true → c.isUpper = false ∧ c.toLower = c) := by
  have hAll := forall_ascii (p := fun c => !c.isAlphanum || decide
    (Words.isSeparator c = false ∧ (c.isUpper = true → c.toLower.isLower = true) ∧
      (c.toLower.isLower = true ∨ c.toLower.isDigit = true) ∧
      (c.isLower = true → c.toUpper.isUpper = true ∧ c.toUpper.toLower = c) ∧
      (c.isLower = true ∨ c.isDigit = true → c.isUpper = false ∧ c.toLower = c)))
    (by decide +kernel) (ascii_of_isAlphanum h)
  simpa only [h, Bool.not_true, Bool.false_or, decide_eq_true_eq] using hAll

namespace Words

/-! ## What is left of a label -/

/-- A label without its separators, in small letters. -/
def bare (label : List Char) : List Char :=
  (label.filter fun c => !isSeparator c).map Char.toLower

theorem bare_append (label more : List Char) : bare (label ++ more) = bare label ++ bare more := by
  simp [bare]

theorem bare_cons_separator {c : Char} (hc : isSeparator c = true) (label : List Char) :
    bare (c :: label) = bare label := by
  simp [bare, hc]

/-- The characters of a piece are characters of the label. -/
theorem mem_of_mem_pieces {label piece : List Char} {c : Char} (hPiece : piece ∈ pieces label)
    (hc : c ∈ piece) : c ∈ label := by
  have hFlat : c ∈ (pieces label).flatten := List.mem_flatten.2 ⟨piece, hPiece, hc⟩
  rw [flatten_pieces] at hFlat
  exact List.mem_of_mem_filter hFlat

theorem toList_lowered {piece : List Char} (h : ∀ c ∈ piece, c.toNat < 128) :
    (lowered piece).toList = piece.map Char.toLower := by
  rw [lowered, String.toList_ofList, lowercase_ascii h]

/-- The words of an ASCII label, one after the other, are what is left of it. -/
theorem flatMap_ofLabel {label : String} (h : ∀ c ∈ label.toList, c.toNat < 128) :
    (ofLabel label).flatMap String.toList = bare label.toList := by
  have hWords : ∀ piece ∈ pieces label.toList, (lowered piece).toList = piece.map Char.toLower :=
    fun piece hPiece => toList_lowered fun c hc => h c (mem_of_mem_pieces hPiece hc)
  rw [ofLabel, List.flatMap_map, List.flatMap_congr hWords, bare, ← flatten_pieces,
    List.map_flatten]
  rfl

/-! ## Words of letters and digits -/

/-- Every word begins with a small letter, and small letters and digits follow. -/
def IsSpoken (words : Words) : Prop :=
  ∀ word ∈ words, ∃ c rest, word.toList = c :: rest ∧ c.isLower = true ∧
    ∀ d ∈ rest, d.isLower = true ∨ d.isDigit = true

/-- A separator ends a piece, and what stands in front of it and behind it is cut apart
without the other. -/
theorem piecesFrom_append_separator {c : Char} (hc : isSeparator c = true)
    (front back : List Char) :
    ∀ current, piecesFrom current (front ++ c :: back) =
      piecesFrom current front ++ pieces back := by
  have hSmall : c.isLower = false := by
    rw [Bool.eq_false_iff]
    intro hLower
    rw [(alphanum_cases (isAlphanum_of_small (.inl hLower))).1] at hc
    cases hc
  induction front with
  | nil =>
      intro current
      simp only [List.nil_append, piecesFrom, hc, if_true]
      rfl
  | cons d rest ih =>
      intro current
      -- A capital looks at the next character, and a separator is not a small letter.
      have hNext : (rest ++ c :: back).head?.any Char.isLower = rest.head?.any Char.isLower := by
        cases rest with
        | nil => simpa using hSmall
        | cons => rfl
      have hBegins : ∀ last, beginsWord last d (rest ++ c :: back) = beginsWord last d rest := by
        intro last
        rw [beginsWord, beginsWord, hNext]
      simp only [List.cons_append, piecesFrom, hBegins]
      split
      case isTrue => rw [ih, List.append_assoc]
      case isFalse =>
          split
          case isTrue => rw [ih, List.append_assoc]
          case isFalse => exact ih (d :: current)

theorem pieces_append_separator {c : Char} (hc : isSeparator c = true) (front back : List Char) :
    pieces (front ++ c :: back) = pieces front ++ pieces back :=
  piecesFrom_append_separator hc front back []

/-- Without separators a piece ends only where a capital begins the next one. -/
theorem piecesFrom_cases {label : List Char} (hLabel : ∀ c ∈ label, isSeparator c = false) :
    ∀ current, current ≠ [] →
      ∃ piece others, piecesFrom current label = piece :: others ∧
        piece.head? = current.getLast? ∧
        ∀ other ∈ others, ∃ c rest, other = c :: rest ∧ c.isUpper = true := by
  induction label with
  | nil =>
      intro current hCurrent
      exact ⟨current.reverse, [], by simp [piecesFrom, finish, hCurrent], by simp, by simp⟩
  | cons c rest ih =>
      intro current hCurrent
      obtain ⟨hc, hRest⟩ := List.forall_mem_cons.1 hLabel
      unfold piecesFrom
      split
      case isTrue hSep => simp [hc] at hSep
      case isFalse =>
          split
          case isTrue hBegins =>
              -- The piece that begins here is the first one of the rest.
              obtain ⟨piece, others, hPieces, hFirst, hOthers⟩ := ih hRest [c] (by simp)
              obtain ⟨more, rfl⟩ : ∃ more, piece = c :: more := List.head?_eq_some_iff.1 hFirst
              have hCapital : c.isUpper = true := by
                obtain ⟨last, -, hBegins⟩ := (Option.any_eq_true _ _).1 hBegins
                simp only [beginsWord, Bool.and_eq_true] at hBegins
                exact hBegins.1
              refine ⟨current.reverse, (c :: more) :: others, ?_, by simp, ?_⟩
              · simp [hPieces, finish, hCurrent]
              · exact List.forall_mem_cons.2 ⟨⟨c, more, rfl, hCapital⟩, hOthers⟩
          case isFalse =>
              obtain ⟨piece, others, hPieces, hFirst, hOthers⟩ := ih hRest (c :: current) (by simp)
              have hLast : (c :: current).getLast? = current.getLast? :=
                List.getLast?_cons_of_ne_nil hCurrent
              exact ⟨piece, others, hPieces, hFirst.trans hLast, hOthers⟩

/-- A word of letters and digits, from the piece that it is. -/
theorem toList_lowered_cons {c : Char} {rest : List Char}
    (h : ∀ d ∈ c :: rest, d.isAlphanum = true) :
    (lowered (c :: rest)).toList = c.toLower :: rest.map Char.toLower ∧
      ∀ d ∈ rest.map Char.toLower, d.isLower = true ∨ d.isDigit = true := by
  refine ⟨toList_lowered fun d hd => ascii_of_isAlphanum (h d hd), fun d hd => ?_⟩
  obtain ⟨e, he, rfl⟩ := List.mem_map.1 hd
  exact (alphanum_cases (h e (List.mem_cons_of_mem _ he))).2.2.1

/-- The words of letters and digits begin with letters, if the first of them does. -/
theorem isSpoken_ofLabel {label : String} (hLabel : label.toList.all Char.isAlphanum = true)
    (hWritable : writable (ofLabel label) = true) : IsSpoken (ofLabel label) := by
  have hLabel := List.all_eq_true.1 hLabel
  have hPiece : ∀ piece ∈ pieces label.toList, ∀ d ∈ piece, d.isAlphanum = true :=
    fun piece hPiece d hd => hLabel d (mem_of_mem_pieces hPiece hd)
  cases hText : label.toList with
  | nil => simp [ofLabel, hText, pieces, piecesFrom, finish, IsSpoken]
  | cons c rest =>
      have hPlain : ∀ d ∈ c :: rest, isSeparator d = false :=
        fun d hd => (alphanum_cases (hLabel d (hText ▸ hd))).1
      obtain ⟨hc, hRest⟩ := List.forall_mem_cons.1 hPlain
      obtain ⟨piece, others, hPieces, hFirst, hOthers⟩ := piecesFrom_cases hRest [c] (by simp)
      obtain ⟨more, rfl⟩ : ∃ more, piece = c :: more := List.head?_eq_some_iff.1 hFirst
      have hAll : pieces label.toList = (c :: more) :: others := by
        rw [hText, pieces, piecesFrom]
        simpa [hc] using hPieces
      obtain ⟨hSelf, hMore⟩ := List.forall_mem_cons.1 (hAll ▸ hPiece)
      obtain ⟨hWord, hTail⟩ := toList_lowered_cons hSelf
      rw [ofLabel, hAll, List.map_cons] at hWritable ⊢
      refine List.forall_mem_cons.2 ⟨⟨_, _, hWord, ?_, hTail⟩, fun word hMem => ?_⟩
      · have hSmall := (alphanum_cases (hSelf c (List.mem_cons_self ..))).2.2.1
        have hDigit : c.toLower.isDigit = false := by
          simp only [writable, hWord, List.head?_cons, Option.any_some, Bool.and_eq_true,
            Bool.not_eq_true'] at hWritable
          exact hWritable.1
        simpa [hDigit] using hSmall
      · obtain ⟨other, hOther, rfl⟩ := List.mem_map.1 hMem
        obtain ⟨d, tail, rfl, hCapital⟩ := hOthers other hOther
        obtain ⟨hWord, hTail⟩ := toList_lowered_cons (hMore _ hOther)
        have hLetter := hMore _ hOther d (List.mem_cons_self ..)
        exact ⟨_, _, hWord, (alphanum_cases hLetter).2.1 hCapital, hTail⟩

/-! ## Spelled as a type -/

/-- A word is spelled with its first letter as a capital. -/
theorem spelled_pascal_cons {first : String} {others : Words} {c : Char} {rest : List Char}
    (hFirst : first.toList = c :: rest) :
    spelled (first :: others) .pascal =
      c.toUpper :: (rest.map Char.toLower ++ spelled others .pascal) := by
  simp [spelled, capitalised, hFirst]

/-- Small letters and digits are small in the lowercase form. -/
theorem map_toLower_eq {text : List Char} (h : ∀ c ∈ text, c.isLower = true ∨ c.isDigit = true) :
    text.map Char.toLower = text := by
  have hSmall : text.map Char.toLower = text.map id := by
    refine List.map_congr_left fun c hc => ?_
    exact ((alphanum_cases (isAlphanum_of_small (h c hc))).2.2.2.2 (h c hc)).2
  rw [hSmall, List.map_id]

/-- The spelling begins with the first word, which has no capital but its first. -/
theorem IsSpoken.spelled_cons {word : String} {words : Words} (h : IsSpoken (word :: words)) :
    ∃ c rest, word.toList = c :: rest ∧ c.toUpper.isUpper = true ∧ c.toUpper.toLower = c ∧
      (∀ d ∈ rest, d.isUpper = false) ∧
      spelled (word :: words) .pascal = c.toUpper :: (rest ++ spelled words .pascal) := by
  obtain ⟨c, rest, hWord, hc, hRest⟩ := h word (List.mem_cons_self ..)
  have hPlain : ∀ d ∈ rest, d.isUpper = false :=
    fun d hd => ((alphanum_cases (isAlphanum_of_small (hRest d hd))).2.2.2.2 (hRest d hd)).1
  obtain ⟨hUpper, hBack⟩ := (alphanum_cases (isAlphanum_of_small (.inl hc))).2.2.2.1 hc
  refine ⟨c, rest, hWord, hUpper, hBack, hPlain, ?_⟩
  rw [spelled_pascal_cons hWord, map_toLower_eq hRest]

/-- The spelling begins with a capital, if there is any. -/
theorem IsSpoken.head?_spelled {words : Words} (h : IsSpoken words) :
    (spelled words .pascal).head?.all Char.isUpper = true := by
  cases words with
  | nil => rfl
  | cons word words =>
      obtain ⟨c, rest, -, hc, -, -, hSpelled⟩ := h.spelled_cons
      simpa [hSpelled] using hc

/-- A text without marks, in front of one that begins with a mark, if it has characters. -/
theorem takeWhile_append_of_head? {marks : Char → Bool} {start rest : List Char}
    (hStart : ∀ d ∈ start, marks d = false) (hRest : rest.head?.all marks = true) :
    (start ++ rest).takeWhile (fun d => !marks d) = start := by
  rw [List.takeWhile_append_of_pos (by simpa using hStart)]
  cases rest with
  | nil => simp
  | cons c rest =>
      have hc : marks c = true := hRest
      simp [hc]

/-- Words that begin with letters are determined by their spelling as a type. -/
theorem spelled_pascal_inj {words : Words} :
    ∀ {others : Words}, IsSpoken words → IsSpoken others →
      spelled words .pascal = spelled others .pascal → words = others := by
  have hNil : spelled [] .pascal = [] := rfl
  induction words with
  | nil =>
      intro others _ hOthers h
      cases others with
      | nil => rfl
      | cons other others =>
          obtain ⟨c, rest, -, -, -, -, hSpelled⟩ := hOthers.spelled_cons
          rw [hNil, hSpelled] at h
          cases h
  | cons word words ih =>
      intro others hWords hOthers h
      obtain ⟨c, rest, hWord, -, hBack, hRest, hSpelled⟩ := hWords.spelled_cons
      cases others with
      | nil =>
          rw [hSpelled, hNil] at h
          cases h
      | cons other others =>
          obtain ⟨d, more, hOther, -, hOtherBack, hMore, hOtherSpelled⟩ := hOthers.spelled_cons
          have hTail : IsSpoken words := fun w hw => hWords w (List.mem_cons_of_mem _ hw)
          have hOtherTail : IsSpoken others := fun w hw => hOthers w (List.mem_cons_of_mem _ hw)
          rw [hSpelled, hOtherSpelled, List.cons.injEq] at h
          obtain ⟨hCapital, hBelow⟩ := h
          obtain rfl : c = d := by rw [← hBack, ← hOtherBack, hCapital]
          -- The first word ends where the next capital stands.
          obtain rfl : rest = more := by
            rw [← takeWhile_append_of_head? hRest hTail.head?_spelled, hBelow,
              takeWhile_append_of_head? hMore hOtherTail.head?_spelled]
          have hSame : word = other := String.toList_inj.1 (hWord.trans hOther.symm)
          rw [hSame, ih hTail hOtherTail (List.append_cancel_left hBelow)]

end Words

end CratePlan
