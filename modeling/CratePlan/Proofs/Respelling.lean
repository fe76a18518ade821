import CratePlan.Proofs.WordDisplay

/-!
# Names that are read back

A name that has been written is a label again. It can be read, and written once more in the
same style. In snake case this gives the name back, whatever its words are, since underscores
stand where the words end and nothing else in a small name ends a word.

The other styles have capitals, and a capital may begin a word or not. Where the words are
spelled without anything between them, each has to begin where its capital stands. It does,
unless the word before it is a single letter, of which nothing but a capital is left. Then
the two capitals are read as the beginning of one word, and only a small letter behind them
tells that the second one begins another: `a`, `bus` is spelled `ABus` and is read back, but
`a`, `b` is spelled `AB`, which is one word and is spelled `Ab`. Where the words are spelled
in capitals throughout, a letter behind a digit looks like the beginning of a word and cuts
its own in two: `a1b` is spelled `A1B`, and that is read as `a1`, `b`.

## Main statements

* `Words.KeptBy`: the words that a style gives back.
* `Words.exists_piecesFrom_respelled`: reading a label and spelling it again changes the size
  of letters only, and not of those that stand at the beginning of a piece.
* `Words.spelled_ofLabel_iff`: which names come back.
* `Identifier.render_again_iff`: the same for what an identifier is rendered to.
* `Identifier.not_all_render_again`: a name that does not come back.
-/

namespace CratePlan

open Text

namespace Words

/-! ## Words that a style keeps apart -/

/-- The word is a single letter. -/
def isLetter (word : String) : Bool :=
  match word.toList with
  | [c] => c.isLower
  | _ => false

/-- The word begins with a letter, and no other letter follows it at once. -/
def isClipped (word : String) : Bool :=
  match word.toList with
  | [] => false
  | c :: rest => c.isLower && !rest.head?.any Char.isLower

/-- Spelled one behind the other with a capital each, the words are still two. -/
def Apart (word next : String) : Prop :=
  ¬(isLetter word = true ∧ isClipped next = true)

instance (word next : String) : Decidable (Apart word next) :=
  inferInstanceAs (Decidable ¬_)

/-- No letter of the word stands behind a digit. -/
def DigitsLast (word : List Char) : Prop :=
  word.IsChain fun c d => ¬(c.isDigit = true ∧ d.isLower = true)

instance (word : List Char) : Decidable (DigitsLast word) :=
  inferInstanceAs (Decidable (List.IsChain _ _))

/-- The words are found again in what they are spelled in a style. -/
def KeptBy (words : Words) : CaseStyle → Prop
  | .snake => True
  | .pascal => words.IsChain Apart
  | .camel => words.tail.IsChain Apart
  | .screamingSnake => ∀ word ∈ words, DigitsLast word.toList

instance (words : Words) (style : CaseStyle) : Decidable (words.KeptBy style) :=
  match style with
  | .snake => inferInstanceAs (Decidable True)
  | .pascal => inferInstanceAs (Decidable (List.IsChain _ _))
  | .camel => inferInstanceAs (Decidable (List.IsChain _ _))
  | .screamingSnake => inferInstanceAs (Decidable (∀ word ∈ words, _))

theorem not_isDigit_of_isAlpha {c : Char} (h : c.isAlpha = true) : c.isDigit = false := by
  have hAll := forall_ascii (p := fun c => !c.isAlpha || !c.isDigit) (by decide +kernel)
    (ascii_of_isAlphanum (show c.isAlphanum = true by simp [Char.isAlphanum, h]))
  simpa [h] using hAll

/-! ## Labels that can be written -/

/-- Put together, the words of such a label are the label without its separators, in small
letters. -/
theorem flatMap_ofLabel_of_plain {label : List Char}
    (hLabel : ∀ c ∈ label, c.isAlphanum = true ∨ c = '_' ∨ c = '-') :
    (ofLabel (String.ofList label)).flatMap String.toList = bare label := by
  have hAscii : ∀ c ∈ (String.ofList label).toList, c.toNat < 128 := by
    rw [String.toList_ofList]
    intro c hc
    rcases hLabel c hc with hPlain | rfl | rfl
    · exact ascii_of_isAlphanum hPlain
    · decide
    · decide
  rw [flatMap_ofLabel hAscii, String.toList_ofList]

/-- The words of such a label have letters and digits only. -/
theorem isAlphanum_of_mem_ofLabel {label : List Char}
    (hLabel : ∀ c ∈ label, c.isAlphanum = true ∨ c = '_' ∨ c = '-') :
    ∀ word ∈ ofLabel (String.ofList label), ∀ c ∈ word.toList, c.isAlphanum = true := by
  intro word hWord c hc
  have hMem := List.mem_flatMap.2 ⟨word, hWord, hc⟩
  rw [flatMap_ofLabel_of_plain hLabel, bare, List.mem_map] at hMem
  obtain ⟨d, hd, rfl⟩ := hMem
  obtain ⟨hd, hKept⟩ := List.mem_filter.1 hd
  rcases hLabel d hd with hPlain | rfl | rfl
  · exact (isAlphanum_toUpper hPlain).2
  · cases hKept
  · cases hKept

theorem isDigit_toLower (c : Char) : c.toLower.isDigit = c.isDigit := by
  by_cases hCapital : c.isUpper = true
  · have hLetter : c.isAlpha = true := by rw [Char.isAlpha, hCapital, Bool.true_or]
    have hSmall : c.toLower.isAlpha = true := by
      rw [Char.isAlpha, Char.isLower_toLower_eq_isAlpha, hLetter, Bool.or_true]
    rw [not_isDigit_of_isAlpha hLetter, not_isDigit_of_isAlpha hSmall]
  · rw [Char.toLower_eq_of_not_isUpper hCapital]

/-- Letters, digits, underscores and hyphens can be written as a name, with a letter or digit at
the beginning, unless it is a digit. -/
theorem writable_ofLabel_iff {c : Char} {rest : List Char} (hFirst : c.isAlphanum = true)
    (hRest : ∀ d ∈ rest, d.isAlphanum = true ∨ d = '_' ∨ d = '-') :
    (ofLabel (String.ofList (c :: rest))).writable = true ↔ c.isDigit = false := by
  have hLabel : ∀ d ∈ c :: rest, d.isAlphanum = true ∨ d = '_' ∨ d = '-' :=
    List.forall_mem_cons.2 ⟨.inl hFirst, hRest⟩
  have hJoined := flatMap_ofLabel_of_plain hLabel
  have hWords := isAlphanum_of_mem_ofLabel hLabel
  have hBegin : bare (c :: rest) = c.toLower :: bare rest := by
    simp [bare, (alphanum_cases hFirst).1]
  have hSome := (Identifier.Made.ofLabel (String.ofList (c :: rest))).word_ne_empty
  cases hSplit : ofLabel (String.ofList (c :: rest)) with
  | nil =>
      rw [hSplit, hBegin] at hJoined
      cases hJoined
  | cons first others =>
      simp only [Identifier.ofLabel, hSplit] at hSome
      obtain ⟨d, more, hWord⟩ := List.exists_cons_of_ne_nil (hSome first (by simp))
      rw [hSplit, hBegin, List.flatMap_cons, hWord, List.cons_append, List.cons.injEq] at hJoined
      have hAll : ((first :: others).all fun word => word.toList.all Char.isAlphanum) = true := by
        simp only [List.all_eq_true]
        exact hSplit ▸ hWords
      rw [writable, hWord, List.head?_cons, Option.any_some, hJoined.1, isDigit_toLower, hAll,
        Bool.and_true, Bool.not_eq_true']

/-- The size of letters may be changed before or after texts are joined. -/
theorem map_intercalate (f : Char → Char) (separator : List Char) (texts : List (List Char)) :
    (separator.intercalate texts).map f = (separator.map f).intercalate (texts.map (List.map f)) := by
  cases texts with
  | nil => simp
  | cons first texts =>
      rw [List.map_cons, Text.intercalate_cons_eq, Text.intercalate_cons_eq, List.map_append,
        List.map_flatMap, List.flatMap_map]
      simp only [List.map_append]

/-- In the two styles with underscores, words are spelled as they are displayed. -/
theorem spelled_snake (words : Words) :
    words.spelled .snake = words.display.toList.map Char.toLower := by
  rw [toList_display, map_intercalate, List.map_map]
  rfl

theorem spelled_screamingSnake (words : Words) :
    words.spelled .screamingSnake = words.display.toList.map Char.toUpper := by
  rw [toList_display, map_intercalate, List.map_map]
  rfl

/-- In camel case, the words behind the first are spelled as in a type. -/
theorem spelled_camel_cons {word : String} {others : Words} {c : Char} {more : List Char}
    (hWord : word.toList = c :: more) (hSmall : IsSmall (c :: more)) :
    spelled (word :: others) .camel = c :: (more ++ spelled others .pascal) := by
  have hKept : small word = c :: more := by rw [small, hWord, map_toLower_eq hSmall]
  simp only [spelled, hKept, List.cons_append]

/-- What is written in camel case has letters and digits. -/
theorem NamesModule.isAlphanum_of_mem_camel {words : Words} (h : words.NamesModule) {c : Char}
    (hc : c ∈ words.spelled .camel) : c.isAlphanum = true := by
  have hLetters : ∀ c ∈ words.spelled .pascal, c.isAlphanum = true :=
    fun c hc => isAlphanum_of_mem_spelled h.writable hc
  obtain ⟨word, others, d, more, rfl, hWord, hd, hMore, -⟩ := h.exists_small
  have hSmall : IsSmall (d :: more) := List.forall_mem_cons.2 ⟨.inl hd, hMore⟩
  rw [spelled_pascal_cons hWord] at hLetters
  rw [spelled_camel_cons hWord hSmall, ← List.cons_append] at hc
  rcases List.mem_append.1 hc with hOwn | hOther
  · exact hSmall.isAlphanum c hOwn
  · exact hLetters c (by simp [hOther])

/-- Whatever the style, a name begins with a letter and has letters, digits and underscores. -/
theorem NamesModule.exists_spelled_eq_cons {words : Words} (h : words.NamesModule)
    (style : CaseStyle) : ∃ c rest, words.spelled style = c :: rest ∧ c.isAlpha = true ∧
      ∀ d ∈ rest, d.isAlphanum = true ∨ d = '_' := by
  have hSized : ∀ f : Char → Char, (∀ c : Char, (f c).isAlpha = c.isAlpha) → f '_' = '_' →
      (∀ c : Char, c.isAlphanum = true → (f c).isAlphanum = true) →
      ∃ c rest, words.display.toList.map f = c :: rest ∧ c.isAlpha = true ∧
        ∀ d ∈ rest, d.isAlphanum = true ∨ d = '_' := by
    intro f hAlpha hMark hPlain
    obtain ⟨c, rest, hDisplay, hc, hRest⟩ := h.exists_display_eq_cons
    refine ⟨f c, rest.map f, by rw [hDisplay, List.map_cons], (hAlpha c).trans hc, ?_⟩
    intro d hd
    obtain ⟨e, he, rfl⟩ := List.mem_map.1 hd
    rcases hRest e he with hLetter | rfl
    · exact .inl (hPlain e hLetter)
    · exact .inr hMark
  cases style with
  | snake =>
      rw [spelled_snake]
      exact hSized _ (fun c => by simp) rfl fun c hc => (isAlphanum_toUpper hc).2
  | screamingSnake =>
      rw [spelled_screamingSnake]
      exact hSized _ (fun c => by simp) rfl fun c hc => (isAlphanum_toUpper hc).1
  | pascal =>
      have hLetters : ∀ c ∈ words.spelled .pascal, c.isAlphanum = true :=
        fun c hc => isAlphanum_of_mem_spelled h.writable hc
      obtain ⟨word, others, c, more, rfl, hWord, hc, -, -⟩ := h.exists_small
      rw [spelled_pascal_cons hWord] at hLetters ⊢
      exact ⟨_, _, rfl, by simp [Char.isAlpha, hc],
        fun d hd => .inl (hLetters d (List.mem_cons_of_mem _ hd))⟩
  | camel =>
      have hLetters : ∀ c ∈ words.spelled .camel, c.isAlphanum = true :=
        fun c hc => h.isAlphanum_of_mem_camel hc
      obtain ⟨word, others, c, more, rfl, hWord, hc, hMore, -⟩ := h.exists_small
      rw [spelled_camel_cons hWord (List.forall_mem_cons.2 ⟨.inl hc, hMore⟩)] at hLetters ⊢
      exact ⟨_, _, rfl, by simp [Char.isAlpha, hc],
        fun d hd => .inl (hLetters d (List.mem_cons_of_mem _ hd))⟩

/-! ## Reading a label and spelling it again -/

/-- A piece as it is spelled in a type. -/
def titled (piece : List Char) : List Char :=
  match piece with
  | [] => []
  | c :: rest => c.toUpper :: rest.map Char.toLower

theorem toLower_map_toLower (text : List Char) :
    (text.map Char.toLower).map Char.toLower = text.map Char.toLower := by
  rw [List.map_map]
  exact List.map_congr_left fun c _ => Char.toLower_toLower_eq_toLower c

theorem capitalised_lowered {piece : List Char} (h : ∀ c ∈ piece, c.isAlphanum = true) :
    capitalised (lowered piece) = titled piece := by
  unfold capitalised titled
  rw [toList_lowered fun c hc => ascii_of_isAlphanum (h c hc)]
  cases piece with
  | nil => rfl
  | cons c rest =>
      simp only [List.map_cons, toLower_map_toLower, Char.toUpper_toLower_eq_toUpper]

theorem small_lowered {piece : List Char} (h : ∀ c ∈ piece, c.isAlphanum = true) :
    small (lowered piece) = piece.map Char.toLower := by
  rw [small, toList_lowered fun c hc => ascii_of_isAlphanum (h c hc), toLower_map_toLower]

/-- What stands behind a letter or digit of a label, read and spelled again: a letter becomes a
capital where it begins a word, and small where it does not. -/
def respelled (last : Char) : List Char → List Char
  | [] => []
  | c :: rest => (if beginsWord last c rest then c.toUpper else c.toLower) :: respelled c rest

/-- Reading a label and spelling it again changes the size of letters only. -/
theorem exists_piecesFrom_respelled {label : List Char}
    (hLabel : ∀ c ∈ label, isSeparator c = false) : ∀ (last : Char) (more : List Char),
      ∃ tail others, piecesFrom (last :: more) label = ((last :: more).reverse ++ tail) :: others ∧
        tail.map Char.toLower ++ (others.map titled).flatten = respelled last label := by
  induction label with
  | nil =>
      intro last more
      exact ⟨[], [], by simp [piecesFrom, finish], rfl⟩
  | cons c rest ih =>
      intro last more
      obtain ⟨hc, hRest⟩ := List.forall_mem_cons.1 hLabel
      by_cases hBegins : beginsWord last c rest = true
      · obtain ⟨tail, others, hPieces, hTail⟩ := ih hRest c []
        refine ⟨[], (c :: tail) :: others, ?_, ?_⟩
        · simpa [piecesFrom, hc, hBegins, finish] using hPieces
        · rw [respelled, if_pos hBegins, ← hTail]
          simp [titled]
      · obtain ⟨tail, others, hPieces, hTail⟩ := ih hRest c (last :: more)
        refine ⟨c :: tail, others, ?_, ?_⟩
        · simpa [piecesFrom, hc, hBegins] using hPieces
        · rw [respelled, if_neg hBegins, ← hTail]
          simp

/-- A letter keeps its size unless it is a capital in the middle of a word. -/
theorem respelled_cons_eq_iff {last c : Char} {rest : List Char} :
    respelled last (c :: rest) = c :: rest ↔
      (c.isUpper = true → beginsWord last c rest = true) ∧ respelled c rest = rest := by
  rw [respelled, List.cons.injEq]
  refine and_congr_left fun _ => ?_
  by_cases hCapital : c.isUpper = true
  · have hLarge : c.toUpper = c :=
      Char.toUpper_eq_of_not_isLower (Char.not_isLower_of_isUpper hCapital)
    have hSmall : c.toLower ≠ c := by
      intro hSame
      have hFalse := Char.isUpper_toLower_eq_false c
      rw [hSame, hCapital] at hFalse
      cases hFalse
    by_cases hBegins : beginsWord last c rest = true <;> simp [hCapital, hBegins, hLarge, hSmall]
  · have hNever : beginsWord last c rest = false := by simp [beginsWord, hCapital]
    simp [hCapital, hNever, Char.toLower_eq_of_not_isUpper hCapital]

/-- Small letters and digits stay as they are, and what stands behind them is read behind the
last of them. -/
theorem respelled_append_small {start rest : List Char} (hStart : IsSmall start) :
    ∀ last, respelled last (start ++ rest) = start ++ rest ↔
      respelled (start.getLastD last) rest = rest := by
  induction start with
  | nil =>
      intro last
      rfl
  | cons c more ih =>
      intro last
      obtain ⟨hc, hMore⟩ := List.forall_mem_cons.1 hStart
      have hSmall : c.isUpper = false := ((alphanum_cases (isAlphanum_of_small hc)).2.2.2.2 hc).1
      rw [List.cons_append, respelled_cons_eq_iff, ih hMore, List.getLastD_cons]
      simp [hSmall]

/-! ## Words with a capital each -/

/-- The spelling of words as a type does not begin with a small letter. -/
theorem head?_spelled_pascal {words : Words} (hWords : ∀ word ∈ words, word.toList ≠ []) :
    (spelled words .pascal).head?.any Char.isLower = false := by
  cases words with
  | nil => rfl
  | cons word words =>
      obtain ⟨c, rest, hWord⟩ := List.exists_cons_of_ne_nil (hWords word (by simp))
      rw [spelled_pascal_cons hWord]
      exact Char.isLower_toUpper_eq_false c

/-- A capital begins a word, unless it stands behind another one and no small letter follows. -/
theorem beginsWord_capital_iff {last c : Char} {rest : List Char} (hLast : last.isAlphanum = true)
    (hc : c.isUpper = true) : beginsWord last c rest = true ↔
      (last.isUpper = true → rest.head?.any Char.isLower = true) := by
  by_cases hCapital : last.isUpper = true
  · have hDigit : last.isDigit = false := not_isDigit_of_isAlpha (by simp [Char.isAlpha, hCapital])
    have hLower : last.isLower = false := by simpa using Char.not_isLower_of_isUpper hCapital
    simp [beginsWord, hc, hCapital, hDigit, hLower]
  · have hOther : last.isLower = true ∨ last.isDigit = true := by
      simpa [Char.isAlphanum, Char.isAlpha, hCapital] using hLast
    simpa [beginsWord, hc, hCapital] using hOther

/-- Of a small word, a capital is the last character only if it is a single letter. -/
theorem last_of_word {word : String} {c : Char} {more : List Char} (hWord : word.toList = c :: more)
    (hSmall : IsSmall (c :: more)) : (more.getLastD c.toUpper).isAlphanum = true ∧
      (more.getLastD c.toUpper).isUpper = isLetter word := by
  have hPlain := hSmall.isAlphanum
  rcases List.eq_nil_or_concat' more with rfl | ⟨start, last, rfl⟩
  · refine ⟨(isAlphanum_toUpper (hPlain c (by simp))).1, ?_⟩
    have hNone : c.isUpper = false :=
      ((alphanum_cases (hPlain c (by simp))).2.2.2.2 (hSmall c (by simp))).1
    simp [isLetter, hWord, Char.isUpper_toUpper_eq_isAlpha, Char.isAlpha, hNone]
  · rw [List.getLastD_concat]
    have hLetter : isLetter word = false := by
      unfold isLetter
      rw [hWord]
      cases start <;> rfl
    refine ⟨hPlain last (by simp), ?_⟩
    rw [hLetter]
    exact ((alphanum_cases (hPlain last (by simp))).2.2.2.2 (hSmall last (by simp))).1

/-- The capital of a word begins a piece exactly when the word stays apart from the one
before. -/
theorem beginsWord_iff_apart {word next : String} {c d : Char} {more rest : List Char}
    {words : Words} (hWord : word.toList = c :: more) (hNext : next.toList = d :: rest)
    (hSmall : IsSmall (c :: more)) (hNextSmall : IsSmall (d :: rest))
    (hWords : ∀ word ∈ words, word.toList ≠ []) :
    (d.toUpper.isUpper = true → beginsWord (more.getLastD c.toUpper) d.toUpper
      (rest ++ spelled words .pascal) = true) ↔ Apart word next := by
  have hNone : d.isUpper = false :=
    ((alphanum_cases (hNextSmall.isAlphanum d (by simp))).2.2.2.2 (hNextSmall d (by simp))).1
  have hCapital : d.toUpper.isUpper = d.isLower := by
    rw [Char.isUpper_toUpper_eq_isAlpha, Char.isAlpha, hNone, Bool.false_or]
  have hFollows : (rest ++ spelled words .pascal).head?.any Char.isLower =
      rest.head?.any Char.isLower := by
    cases rest with
    | nil => exact head?_spelled_pascal hWords
    | cons => rfl
  have hClipped : isClipped next = (d.isLower && !rest.head?.any Char.isLower) := by
    simp [isClipped, hNext]
  obtain ⟨hPlain, hLast⟩ := last_of_word hWord hSmall
  rw [Apart, hClipped, ← hLast]
  by_cases hd : d.isLower = true
  · rw [beginsWord_capital_iff hPlain (hCapital.trans hd), hFollows, hCapital]
    simp [hd]
  · simp [hCapital, hd]

/-- Words with a capital each come back when each stays apart from the one before. -/
theorem respelled_spelled_iff {words : Words} : ∀ {word : String} {c : Char} {more : List Char},
    word.toList = c :: more → (∀ w ∈ word :: words, w.toList ≠ [] ∧ IsSmall w.toList) →
      (respelled c.toUpper (more ++ spelled words .pascal) = more ++ spelled words .pascal ↔
        (word :: words).IsChain Apart) := by
  induction words with
  | nil =>
      intro word c more hWord hWords
      have hSmall := (hWords word (by simp)).2
      rw [hWord] at hSmall
      rw [respelled_append_small (List.forall_mem_cons.1 hSmall).2]
      simp [spelled, respelled]
  | cons next words ih =>
      intro word c more hWord hWords
      obtain ⟨⟨-, hSmall⟩, hRest⟩ := List.forall_mem_cons.1 hWords
      obtain ⟨⟨hSome, hNextSmall⟩, hOthers⟩ := List.forall_mem_cons.1 hRest
      obtain ⟨d, rest, hNext⟩ := List.exists_cons_of_ne_nil hSome
      rw [hWord] at hSmall
      rw [hNext] at hNextSmall
      have hKept : rest.map Char.toLower = rest :=
        map_toLower_eq (List.forall_mem_cons.1 hNextSmall).2
      rw [respelled_append_small (List.forall_mem_cons.1 hSmall).2, spelled_pascal_cons hNext,
        hKept, respelled_cons_eq_iff, ih hNext hRest, List.isChain_cons_cons,
        beginsWord_iff_apart hWord hNext hSmall hNextSmall fun w hw => (hOthers w hw).1]

/-- A label of letters and digits, read and spelled without anything between the words. -/
theorem spelled_ofLabel_cons {c : Char} {rest : List Char}
    (h : ∀ d ∈ c :: rest, d.isAlphanum = true) :
    spelled (ofLabel (String.ofList (c :: rest))) .pascal = c.toUpper :: respelled c rest ∧
      spelled (ofLabel (String.ofList (c :: rest))) .camel = c.toLower :: respelled c rest := by
  obtain ⟨hc, hRest⟩ := List.forall_mem_cons.1 h
  have hPlain : ∀ d ∈ rest, isSeparator d = false := fun d hd => (alphanum_cases (hRest d hd)).1
  obtain ⟨tail, others, hPieces, hTail⟩ := exists_piecesFrom_respelled hPlain c []
  have hSplit : pieces (c :: rest) = (c :: tail) :: others := by
    simpa [pieces, piecesFrom, (alphanum_cases hc).1] using hPieces
  have hLetters : ∀ piece ∈ (c :: tail) :: others, ∀ d ∈ piece, d.isAlphanum = true :=
    fun piece hPiece d hd => h d (mem_of_mem_pieces (hSplit ▸ hPiece) hd)
  obtain ⟨hFirst, hOthers⟩ := List.forall_mem_cons.1 hLetters
  have hTitled : (others.map lowered).map capitalised = others.map titled := by
    rw [List.map_map]
    exact List.map_congr_left fun piece hPiece => capitalised_lowered (hOthers piece hPiece)
  rw [ofLabel, String.toList_ofList, hSplit, List.map_cons, ← hTail]
  constructor
  · simp only [spelled, List.map_cons, hTitled, capitalised_lowered hFirst, List.flatten_cons]
    rfl
  · simp only [spelled, hTitled, small_lowered hFirst]
    rfl

/-! ## Words with underscores between them -/

/-- Among capitals and digits, a capital begins a word only behind a digit. -/
theorem beginsWord_capitals {last c : Char} (hc : c.isLower = true ∨ c.isDigit = true)
    (rest : List Char) :
    beginsWord last.toUpper c.toUpper (rest.map Char.toUpper) = (last.isDigit && c.isLower) := by
  have hNext : (rest.map Char.toUpper).head?.any Char.isLower = false := by
    cases rest with
    | nil => rfl
    | cons d rest => exact Char.isLower_toUpper_eq_false d
  have hCapital : c.toUpper.isUpper = c.isLower := by
    rw [Char.isUpper_toUpper_eq_isAlpha, Char.isAlpha,
      ((alphanum_cases (isAlphanum_of_small hc)).2.2.2.2 hc).1, Bool.false_or]
  have hDigit : last.toUpper.isDigit = last.isDigit := by
    by_cases hLower : last.isLower = true
    · have hAlpha : last.isAlpha = true := by simp [Char.isAlpha, hLower]
      rw [not_isDigit_of_isAlpha hAlpha, not_isDigit_of_isAlpha (by simpa using hAlpha)]
    · rw [Char.toUpper_eq_of_not_isLower hLower]
  rw [beginsWord, hNext, hCapital, hDigit, Char.isLower_toUpper_eq_false, Bool.false_or,
    Bool.and_false, Bool.or_false, Bool.and_comm]

/-- Of a word in capitals the first piece is all, unless a letter stands behind a digit. -/
theorem length_piecesFrom_capitals {rest : List Char} : ∀ {last : Char} (more : List Char),
    IsSmall (last :: rest) →
      ((piecesFrom (last.toUpper :: more) (rest.map Char.toUpper)).length = 1 ↔
        DigitsLast (last :: rest)) := by
  induction rest with
  | nil =>
      intro last more _
      exact iff_of_true (by simp [piecesFrom, finish]) (.singleton _)
  | cons c rest ih =>
      intro last more hSmall
      obtain ⟨-, hRest⟩ := List.forall_mem_cons.1 hSmall
      have hc := hRest c (by simp)
      have hPlain := (alphanum_cases (isAlphanum_toUpper (isAlphanum_of_small hc)).1).1
      rw [DigitsLast, List.isChain_cons_cons, ← DigitsLast, List.map_cons, piecesFrom,
        if_neg (by simp [hPlain]), List.head?_cons, Option.any_some, beginsWord_capitals hc]
      by_cases hCut : last.isDigit = true ∧ c.isLower = true
      · have hCapitals : ∀ d ∈ rest.map Char.toUpper, isSeparator d = false := by
          intro d hd
          obtain ⟨e, he, rfl⟩ := List.mem_map.1 hd
          have hLetter := isAlphanum_of_small (hRest e (List.mem_cons_of_mem _ he))
          exact (alphanum_cases (isAlphanum_toUpper hLetter).1).1
        obtain ⟨tail, others, hPieces, -⟩ := exists_piecesFrom_respelled hCapitals c.toUpper []
        simp [hCut, hPieces, finish]
      · rw [if_neg (by simpa using hCut), ih (last.toUpper :: more) hRest]
        simp [hCut]

/-- Nothing of a word in capitals is lost when it is read. -/
theorem flatten_pieces_capitals {word : String} (hSmall : IsSmall word.toList) :
    (pieces (capitals word)).flatten = capitals word := by
  rw [flatten_pieces, List.filter_eq_self]
  intro c hc
  obtain ⟨d, hd, rfl⟩ := List.mem_map.1 hc
  simp [(alphanum_cases (isAlphanum_toUpper (hSmall.isAlphanum d hd)).1).1]

/-- A small word in capitals is one piece if its digits stand behind its letters, and then it
is read back. -/
theorem length_pieces_capitals_iff {word : String} (hSome : word.toList ≠ [])
    (hSmall : IsSmall word.toList) :
    ((pieces (capitals word)).length = 1 ↔ DigitsLast word.toList) ∧
      (DigitsLast word.toList → (pieces (capitals word)).map lowered = [word]) := by
  have hLetters : ∀ c ∈ capitals word, c.isAlphanum = true := by
    intro c hc
    obtain ⟨d, hd, rfl⟩ := List.mem_map.1 hc
    exact (isAlphanum_toUpper (hSmall.isAlphanum d hd)).1
  have hLength : (pieces (capitals word)).length = 1 ↔ DigitsLast word.toList := by
    obtain ⟨c, rest, hWord⟩ := List.exists_cons_of_ne_nil hSome
    rw [hWord] at hSmall ⊢
    have hFirst : isSeparator c.toUpper = false :=
      (alphanum_cases (hLetters _ (by simp [capitals, hWord]))).1
    rw [← length_piecesFrom_capitals [] hSmall, capitals, hWord, pieces, List.map_cons, piecesFrom]
    simp [hFirst]
  refine ⟨hLength, fun hDigits => ?_⟩
  obtain ⟨piece, hPiece⟩ := List.length_eq_one_iff.1 (hLength.2 hDigits)
  have hAll : piece = capitals word := by
    simpa [hPiece] using flatten_pieces_capitals hSmall
  have hBack : (lowered piece).toList = word.toList := by
    rw [hAll, toList_lowered fun c hc => ascii_of_isAlphanum (hLetters c hc), capitals,
      List.map_map]
    have hSame : (word.toList.map (Char.toLower ∘ Char.toUpper)) = word.toList.map Char.toLower :=
      List.map_congr_left fun c _ => Char.toLower_toUpper_eq_toLower c
    rw [hSame, map_toLower_eq hSmall]
  rw [hPiece, List.map_singleton, String.toList_inj.1 hBack]

/-- Words in capitals are determined by what they make with underscores between them. -/
theorem map_capitals_eq_of_spelled {words others : Words} (h : words.writable = true)
    (hOther : others.writable = true)
    (hSame : words.spelled .screamingSnake = others.spelled .screamingSnake) :
    words.map capitals = others.map capitals := by
  have hPlain : ∀ {words : Words}, words.writable = true →
      ∀ text ∈ words.map capitals, ∀ c ∈ text, ('_' == c) = false := by
    intro words hWords text hText c hc
    obtain ⟨word, hWord, rfl⟩ := List.mem_map.1 hText
    obtain ⟨d, hd, rfl⟩ := List.mem_map.1 hc
    have hLetter := (isAlphanum_toUpper (isAlphanum_of_writable hWords word hWord d hd)).1
    exact beq_false_of_ne fun hMark => by rw [← hMark] at hLetter; cases hLetter
  have hMark : ('_' == '_') = true := rfl
  exact Text.intercalate_inj hMark (hPlain h) (hPlain hOther)
    (by simpa using ne_nil_of_writable h) (by simpa using ne_nil_of_writable hOther) hSame

/-- Rows that are not empty are as many as their members together only if each has one. -/
theorem length_eq_one_of_flatMap {α β : Type} {f : α → List β} {xs : List α}
    (hSome : ∀ x ∈ xs, f x ≠ []) (h : (xs.flatMap f).length = xs.length) :
    ∀ x ∈ xs, (f x).length = 1 := by
  induction xs with
  | nil => simp
  | cons x xs ih =>
      obtain ⟨hx, hRest⟩ := List.forall_mem_cons.1 hSome
      have hPos := List.length_pos_iff.2 hx
      have hLeast : xs.length ≤ (xs.flatMap f).length := by
        rw [List.length_flatMap]
        simpa using List.length_le_sum_of_one_le (xs.map fun y => (f y).length)
          (by simpa [Nat.one_le_iff_ne_zero] using hRest)
      rw [List.flatMap_cons, List.length_append, List.length_cons] at h
      exact List.forall_mem_cons.2 ⟨by omega, ih hRest (by omega)⟩

/-! ## Which names come back -/

section Styles

variable {words : Words} (h : words.NamesModule)
include h

/-- What words are spelled to in a style can be written again. -/
theorem writable_ofLabel_spelled (style : CaseStyle) :
    (ofLabel (String.ofList (words.spelled style))).writable = true := by
  obtain ⟨c, rest, hSpelled, hc, hRest⟩ := h.exists_spelled_eq_cons style
  rw [hSpelled]
  have hLetter : c.isAlphanum = true := by rw [Char.isAlphanum, hc, Bool.true_or]
  exact (writable_ofLabel_iff hLetter fun d hd => (hRest d hd).imp_right .inl).2
    (not_isDigit_of_isAlpha hc)

/-- Small words with underscores between them are read back. -/
theorem ofLabel_spelled_snake : ofLabel (String.ofList (words.spelled .snake)) = words := by
  rw [h.spelled_snake_eq, String.ofList_toList, ofLabel_display h.isSettled]

/-- Words in capitals come back when their digits stand behind their letters. -/
theorem spelled_ofLabel_screamingSnake_iff :
    spelled (ofLabel (String.ofList (words.spelled .screamingSnake))) .screamingSnake =
      words.spelled .screamingSnake ↔ words.KeptBy .screamingSnake := by
  have hWords := h.isSmall
  have hRead : ofLabel (String.ofList (words.spelled .screamingSnake)) =
      words.flatMap fun word => (pieces (capitals word)).map lowered := by
    rw [spelled, ofLabel_intercalate, List.flatMap_map]
  constructor
  · intro hSame word hWord
    obtain ⟨hSome, hSmall⟩ := hWords word hWord
    -- As many words are read as were written, so none of them was cut.
    have hTexts := map_capitals_eq_of_spelled (writable_ofLabel_spelled h _) h.writable hSame
    have hCount := congrArg List.length hTexts
    rw [List.length_map, List.length_map, hRead] at hCount
    have hPieces : ∀ w ∈ words, (pieces (capitals w)).map lowered ≠ [] := by
      intro w hw hNone
      obtain ⟨hText, hLetters⟩ := hWords w hw
      have hFlat := flatten_pieces_capitals hLetters
      rw [List.map_eq_nil_iff.1 hNone, List.flatten_nil] at hFlat
      exact hText (List.map_eq_nil_iff.1 hFlat.symm)
    have hOne := length_eq_one_of_flatMap hPieces hCount word hWord
    rw [List.length_map] at hOne
    exact (length_pieces_capitals_iff hSome hSmall).1.1 hOne
  · intro hKept
    have hBack : ∀ word ∈ words, (pieces (capitals word)).map lowered = [word] := fun word hWord =>
      (length_pieces_capitals_iff (hWords word hWord).1 (hWords word hWord).2).2 (hKept word hWord)
    rw [hRead, List.flatMap_congr hBack, List.flatMap_singleton']

/-- Spelled as types, words come back when no single letter is in the way. -/
theorem spelled_ofLabel_pascal_iff :
    spelled (ofLabel (String.ofList (words.spelled .pascal))) .pascal = words.spelled .pascal ↔
      words.KeptBy .pascal := by
  have hWords := h.isSmall
  have hLetters : ∀ c ∈ words.spelled .pascal, c.isAlphanum = true :=
    fun c hc => isAlphanum_of_mem_spelled h.writable hc
  obtain ⟨word, others, c, more, rfl, hWord, hc, hMore, -⟩ := h.exists_small
  have hLarge : c.toUpper.toUpper = c.toUpper := Char.toUpper_toUpper_eq_toUpper c
  rw [spelled_pascal_cons hWord, map_toLower_eq hMore] at hLetters ⊢
  rw [(spelled_ofLabel_cons hLetters).1, hLarge, List.cons.injEq, eq_self, true_and]
  exact respelled_spelled_iff hWord hWords

/-- The same holds behind the first word, which is spelled without a capital. -/
theorem spelled_ofLabel_camel_iff :
    spelled (ofLabel (String.ofList (words.spelled .camel))) .camel = words.spelled .camel ↔
      words.KeptBy .camel := by
  have hWords := h.isSmall
  have hLetters : ∀ c ∈ words.spelled .camel, c.isAlphanum = true :=
    fun c hc => h.isAlphanum_of_mem_camel hc
  obtain ⟨word, others, c, more, rfl, hWord, hc, hMore, -⟩ := h.exists_small
  have hSmall : IsSmall (c :: more) := List.forall_mem_cons.2 ⟨.inl hc, hMore⟩
  have hSame : c.toLower = c := Char.toLower_eq_of_not_isUpper (Char.not_isUpper_of_isLower hc)
  rw [spelled_camel_cons hWord hSmall] at hLetters ⊢
  rw [(spelled_ofLabel_cons hLetters).2, hSame, List.cons.injEq, eq_self, true_and,
    respelled_append_small hMore, KeptBy, List.tail_cons]
  obtain ⟨-, hOthers⟩ := List.forall_mem_cons.1 hWords
  cases others with
  | nil => exact iff_of_true rfl .nil
  | cons next others =>
      obtain ⟨hSome, hNextSmall⟩ := hOthers next (by simp)
      obtain ⟨d, rest, hNext⟩ := List.exists_cons_of_ne_nil hSome
      rw [hNext] at hNextSmall
      have hLast := hSmall _ (List.getLastD_mem_cons (l := more) (a := c))
      have hLastNone := ((alphanum_cases (isAlphanum_of_small hLast)).2.2.2.2 hLast).1
      rw [spelled_pascal_cons hNext, map_toLower_eq (List.forall_mem_cons.1 hNextSmall).2,
        respelled_cons_eq_iff, respelled_spelled_iff hNext hOthers, and_iff_right_iff_imp]
      intro _ hCapital
      rw [beginsWord_capital_iff (isAlphanum_of_small hLast) hCapital, hLastNone]
      exact nofun

/-- A style gives its names back exactly for the words that it keeps. -/
theorem spelled_ofLabel_iff (style : CaseStyle) :
    spelled (ofLabel (String.ofList (words.spelled style))) style = words.spelled style ↔
      words.KeptBy style := by
  cases style with
  | snake => exact iff_of_true (by rw [ofLabel_spelled_snake h]) trivial
  | pascal => exact spelled_ofLabel_pascal_iff h
  | camel => exact spelled_ofLabel_camel_iff h
  | screamingSnake => exact spelled_ofLabel_screamingSnake_iff h

end Styles

end Words

/-! ## Identifiers -/

namespace Identifier

/-- What a label is rendered to can be rendered again, and it is the same exactly when the
style keeps the words of the label. -/
theorem render_again_iff {raw text : String} {style : CaseStyle}
    (h : (Identifier.ofLabel raw).render style = .ok text) :
    (∃ again, (Identifier.ofLabel text).render style = .ok again) ∧
      ((Identifier.ofLabel text).render style = .ok text ↔
        (Words.ofLabel raw).KeptBy style) := by
  obtain ⟨hWritable, rfl⟩ := render_eq_ok_iff.1 h
  have hNames := Words.namesModule_ofLabel hWritable
  have hAgain := Words.writable_ofLabel_spelled hNames style
  refine ⟨⟨_, render_eq_ok_iff.2 ⟨hAgain, rfl⟩⟩, ?_⟩
  rw [render_eq_ok_iff, ← Words.spelled_ofLabel_iff hNames style, String.ofList_inj]
  exact (and_iff_right hAgain).trans eq_comm

/-- One of these words is a single letter, and the word behind it begins where its capital is. -/
theorem useABus_render_again :
    (Identifier.ofLabel "use a_bus").render .pascal = .ok "UseABus" ∧
      (Identifier.ofLabel "UseABus").render .pascal = .ok "UseABus" := by
  have hFirst : (Identifier.ofLabel "use a_bus").render .pascal = .ok "UseABus" := by
    decide +kernel
  exact ⟨hFirst, (render_again_iff hFirst).2.2 (by decide +kernel)⟩

/-- Two single letters are read as one word. -/
theorem not_all_render_again :
    ¬∀ (raw text : String) (style : CaseStyle),
      (Identifier.ofLabel raw).render style = .ok text →
        (Identifier.ofLabel text).render style = .ok text := by
  intro hAll
  have hFirst : (Identifier.ofLabel "a_b_c").render .pascal = .ok "ABC" := by decide +kernel
  have hSecond : (Identifier.ofLabel "ABC").render .pascal = .ok "Abc" := by decide +kernel
  have hSame := hAll "a_b_c" "ABC" .pascal hFirst
  rw [hSecond] at hSame
  exact absurd hSame (by decide)

end Identifier

end CratePlan
