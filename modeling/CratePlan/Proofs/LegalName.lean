import CratePlan.Proofs.ModuleName

/-!
# Legal names

The target language keeps words for itself. It uses some of them, the strict keywords, and
reserves others. A name is not one of these, unless it is written with `r#` in front, and
four words are not admitted even so.

What is written for a module is held against these rules: nothing is written that they
refuse, whatever the words are. What is written for a type is not marked in any way. It
begins with a capital, and so does only one keyword, so that there is a single name of a
type that the rules refuse.

## Main statements

* `Words.NamesModule.isModuleName`: what is written for a module is legal.
* `Words.NamesModule.isPlainName_pascal`: what is written for a type is spelled as a name.
* `Words.NamesModule.pascal_mem_keywords_iff`, `Identifier.Made.isTypeName_iff`: when it is a
  keyword all the same.
-/

namespace CratePlan

open CratePlan.Text

/-! ## The rules -/

/-- Words that the target language uses. -/
def strictKeywords : List String :=
  ["as", "break", "const", "continue", "crate", "else", "enum", "extern", "false", "fn",
    "for", "if", "impl", "in", "let", "loop", "match", "mod", "move", "mut", "pub", "ref",
    "return", "self", "Self", "static", "struct", "super", "trait", "true", "type",
    "unsafe", "use", "where", "while", "async", "await", "dyn"]

/-- Words that the target language reserves. -/
def reservedKeywords : List String :=
  ["abstract", "become", "box", "do", "final", "macro", "override", "priv", "typeof",
    "unsized", "virtual", "yield", "try"]

/-- Words that are no names as they stand. -/
def keywords : List String :=
  strictKeywords ++ reservedKeywords

/-- Keywords that are no names with the raw marker either. -/
def neverRaw : List String :=
  ["crate", "self", "super", "Self"]

/-- Letters, digits and underscores of ASCII, with a letter at the beginning. -/
def isPlainName (name : String) : Bool :=
  match name.toList with
  | [] => false
  | first :: rest => first.isAlpha && rest.all fun c => c.isAlphanum || c == '_'

/-- The name may stand for a type. -/
def IsTypeName (name : String) : Prop :=
  isPlainName name = true ∧ name ∉ keywords

/-- The name may stand for a module, as it is written. -/
inductive IsModuleName : String → Prop where
  | plain {name : String} : isPlainName name = true → name ∉ keywords → IsModuleName name
  | raw {keyword : String} : keyword ∈ keywords → keyword ∉ neverRaw →
      IsModuleName ("r#" ++ keyword)
  | marked {keyword : String} : keyword ∈ ["crate", "self", "super"] →
      IsModuleName (keyword ++ "_")

/-! ## What is written for a module -/

/-- A reserved word is legal when it has its mark. -/
theorem isModuleName_escapeKeyword {name : String} (hName : isPlainName name = true) :
    IsModuleName (escapeKeyword name) := by
  unfold escapeKeyword
  split
  case isTrue hPath =>
      have hAll : ∀ keyword ∈ pathKeywords, keyword ∈ ["crate", "self", "super"] ∨
          (isPlainName (keyword ++ "_") = true ∧ keyword ++ "_" ∉ keywords) := by decide
      rcases hAll name hPath with hMarked | ⟨hPlain, hFree⟩
      · exact .marked hMarked
      · exact .plain hPlain hFree
  case isFalse hPath =>
      split
      case isTrue hRaw =>
          have hAll : ∀ keyword ∈ rawKeywords, keyword ∈ keywords ∧ keyword ∉ neverRaw := by
            decide
          obtain ⟨hKeyword, hAdmitted⟩ := hAll name hRaw
          exact .raw hKeyword hAdmitted
      case isFalse hRaw =>
          have hAll : ∀ keyword ∈ keywords, keyword ∈ pathKeywords ∨ keyword ∈ rawKeywords := by
            decide
          refine .plain hName fun hKeyword => ?_
          rcases hAll name hKeyword with hFound | hFound
          · exact hPath hFound
          · exact hRaw hFound

namespace Words

/-- What is written for a module is legal. -/
theorem NamesModule.isModuleName {words : Words} (h : words.NamesModule) :
    IsModuleName words.moduleName := by
  obtain ⟨c, rest, hDisplay, hFirst, hRest⟩ := h.exists_display_eq_cons
  refine isModuleName_escapeKeyword ?_
  simp only [isPlainName, hDisplay, hFirst, Bool.true_and, List.all_eq_true, Bool.or_eq_true,
    beq_iff_eq]
  exact hRest

/-! ## What is written for a type -/

end Words

/-- There are no capitals in the words of an identifier. -/
theorem Identifier.Made.not_isUpper {identifier : Identifier} (h : identifier.Made) :
    ∀ word ∈ identifier.words, ∀ c ∈ word.toList, c.isUpper = false := by
  have hLowered : ∀ piece : List Char, ∀ c ∈ (Words.lowered piece).toList, c.isUpper = false := by
    intro piece c hc
    rw [Words.lowered, String.toList_ofList] at hc
    exact not_isUpper_of_mem_lowercase hc
  cases h with
  | ofLabel label =>
      intro word hWord
      obtain ⟨piece, -, rfl⟩ := List.mem_map.1 hWord
      exact hLowered piece
  | ofWords words =>
      intro word hWord
      obtain ⟨text, -, rfl⟩ := List.mem_map.1 (List.mem_of_mem_filter hWord)
      exact hLowered text.toList

/-- Letters and digits stay what they are in the other size. -/
theorem isAlphanum_toUpper {c : Char} (h : c.isAlphanum = true) :
    c.toUpper.isAlphanum = true ∧ c.toLower.isAlphanum = true := by
  have hAll := forall_ascii (p := fun c => !c.isAlphanum ||
    (c.toUpper.isAlphanum && c.toLower.isAlphanum)) (by decide +kernel) (ascii_of_isAlphanum h)
  simpa only [h, Bool.not_true, Bool.false_or, Bool.and_eq_true] using hAll

namespace Words

/-- The first word that names a module begins with a small letter, and small letters and
digits follow. The others are not empty. -/
theorem NamesModule.exists_small {words : Words} (h : words.NamesModule) :
    ∃ first others c rest, words = first :: others ∧ first.toList = c :: rest ∧
      c.isLower = true ∧ (∀ d ∈ rest, d.isLower = true ∨ d.isDigit = true) ∧
      ∀ word ∈ others, word.toList ≠ [] := by
  have hCapitals : ∀ word ∈ words, ∀ c ∈ word.toList, c.isUpper = false := by
    obtain ⟨identifier, hMade, rfl, -⟩ := h
    exact hMade.not_isUpper
  have hLetters := isAlphanum_of_writable h.writable
  have hSome := h.word_ne_empty
  obtain ⟨first, others, c, rest, rfl, hFirst, hLetter⟩ := h.exists_eq_cons
  have hFirstCapitals := hCapitals first (by simp)
  have hFirstLetters := hLetters first (by simp)
  rw [hFirst] at hFirstCapitals hFirstLetters
  refine ⟨first, others, c, rest, rfl, hFirst, ?_, fun d hd => ?_, fun word hWord => ?_⟩
  · have hCapital := hFirstCapitals c (by simp)
    simpa [Char.isAlpha, hCapital] using hLetter
  · have hCapital := hFirstCapitals d (by simp [hd])
    have hAlphanum := hFirstLetters d (by simp [hd])
    simpa [Char.isAlphanum, Char.isAlpha, hCapital] using hAlphanum
  · exact hSome word (by simp [hWord])

/-- What is written for a type has letters and digits. -/
theorem isAlphanum_of_mem_spelled {words : Words} (h : words.writable = true) {c : Char}
    (hc : c ∈ words.spelled .pascal) : c.isAlphanum = true := by
  obtain ⟨text, hText, hc⟩ := List.mem_flatten.1 hc
  obtain ⟨word, hWord, rfl⟩ := List.mem_map.1 hText
  have hLetter := isAlphanum_of_writable h word hWord
  unfold capitalised at hc
  split at hc
  case h_1 => cases hc
  case h_2 d rest hText =>
      rw [hText] at hLetter
      rcases List.mem_cons.1 hc with rfl | hRest
      · exact (isAlphanum_toUpper (hLetter d (by simp))).1
      · obtain ⟨e, he, rfl⟩ := List.mem_map.1 hRest
        exact (isAlphanum_toUpper (hLetter e (by simp [he]))).2

/-- What is written for a type is spelled as a name. -/
theorem NamesModule.isPlainName_pascal {words : Words} (h : words.NamesModule) :
    isPlainName (String.ofList (words.spelled .pascal)) = true := by
  have hLetters : ∀ c ∈ words.spelled .pascal, c.isAlphanum = true :=
    fun c hc => isAlphanum_of_mem_spelled h.writable hc
  obtain ⟨first, others, c, rest, rfl, hFirst, hSmall, -, -⟩ := h.exists_small
  have hAlphanum : c.isAlphanum = true := isAlphanum_of_small (.inl hSmall)
  have hCapital : c.toUpper.isAlpha = true := by
    simp [Char.isAlpha, ((alphanum_cases hAlphanum).2.2.2.1 hSmall).1]
  rw [spelled_pascal_cons hFirst] at hLetters ⊢
  simp only [isPlainName, String.toList_ofList, hCapital, Bool.true_and, List.all_eq_true,
    Bool.or_eq_true]
  exact fun d hd => .inl (hLetters d (List.mem_cons_of_mem _ hd))

/-- The words of the one name that is a keyword when it is written for a type. -/
def selfWords : Words := ["self"]

/-- What is written for a type is a keyword only if it is `Self`. -/
theorem NamesModule.pascal_mem_keywords_iff {words : Words} (h : words.NamesModule) :
    String.ofList (words.spelled .pascal) ∈ keywords ↔ words = selfWords := by
  constructor
  · intro hKeyword
    obtain ⟨first, others, c, rest, rfl, hFirst, hLower, hRest, hOthers⟩ := h.exists_small
    have hAlphanum : c.isAlphanum = true := isAlphanum_of_small (.inl hLower)
    obtain ⟨hCapital, hBack⟩ := (alphanum_cases hAlphanum).2.2.2.1 hLower
    rw [spelled_pascal_cons hFirst, map_toLower_eq hRest] at hKeyword
    -- Only one keyword begins with a capital.
    have hAll : ∀ keyword ∈ keywords, keyword.toList.head?.any Char.isUpper = true →
        keyword.toList = ['S', 'e', 'l', 'f'] := by decide
    have hSelf := hAll _ hKeyword (by simp [hCapital])
    rw [String.toList_ofList, List.cons.injEq] at hSelf
    obtain ⟨hHead, hTail⟩ := hSelf
    have hc : c = 's' := by
      rw [← hBack, hHead]
      decide
    cases others with
    | nil =>
        have hNothing : spelled [] .pascal = [] := rfl
        rw [hNothing, List.append_nil] at hTail
        have hText : first.toList = "self".toList := by
          rw [hFirst, hc, hTail]
          decide
        rw [String.toList_inj.1 hText, selfWords]
    | cons other others =>
        -- A second word would begin with a capital or a digit.
        obtain ⟨d, more, hOther⟩ := List.exists_cons_of_ne_nil (hOthers other (by simp))
        rw [spelled_pascal_cons hOther] at hTail
        have hMem : d.toUpper ∈ ['e', 'l', 'f'] := by
          rw [← hTail]
          simp
        have hSmall : ['e', 'l', 'f'].all Char.isLower = true := by decide
        have hContrary := List.all_eq_true.1 hSmall _ hMem
        rw [Char.isLower_toUpper_eq_false] at hContrary
        cases hContrary
  · rintro rfl
    decide

end Words

/-- What an identifier is rendered to for a type is spelled as a name, and it may stand for a
type unless it is `Self`. -/
theorem Identifier.Made.isTypeName_iff {identifier : Identifier} (h : identifier.Made)
    {name : String} (hName : identifier.render .pascal = .ok name) :
    isPlainName name = true ∧ (IsTypeName name ↔ identifier.words ≠ Words.selfWords) := by
  obtain ⟨hWritable, rfl⟩ := Identifier.render_eq_ok_iff.1 hName
  have hWords := Words.namesModule_of_writable h hWritable
  have hPlain := hWords.isPlainName_pascal
  refine ⟨hPlain, ?_⟩
  rw [IsTypeName, ne_eq, ← hWords.pascal_mem_keywords_iff]
  exact and_iff_right hPlain

end CratePlan
