import CratePlan.Proofs.Respelling

/-!
# Names read back from a type

A type is named by its words with a capital each and nothing between them. Read as a label, such
a name need not have the same words again, even where it is spelled the same again: `a1b` and
the two words `a`, `1b` are both spelled with one capital. So each word behind the first has to
have a capital, which it has if it begins with a letter, and the capital has to be seen as the
beginning of a word.

For the second part the spelling is known to come back when the words stay apart
(`Words.KeptBy`), and the first makes the words determined by their spelling. `StandsOut` says
both of two words that follow each other, from the number of their letters alone.

## Main statements

* `Words.isChain_standsOut_iff`: words stand out when they begin with letters and stay apart.
* `Identifier.words_of_pascal_iff`: which names are read back from a type.
-/

namespace CratePlan

namespace Words

/-- The second word begins with a letter, and either the first has more than one character, or
another letter comes second. -/
def StandsOut (word next : String) : Prop :=
  next.toList[0]?.any Char.isAlpha = true ∧
    (2 ≤ word.length ∨ next.toList[1]?.any Char.isAlpha = true)

instance (word next : String) : Decidable (StandsOut word next) :=
  inferInstanceAs (Decidable (_ ∧ _))

/-- Of small letters and digits, those that are letters are small letters. -/
theorem IsSmall.isAlpha_eq {text : List Char} (h : IsSmall text) {c : Char} (hc : c ∈ text) :
    c.isAlpha = c.isLower := by
  have hCapital := ((alphanum_cases (h.isAlphanum c hc)).2.2.2.2 (h c hc)).1
  rw [Char.isAlpha, hCapital, Bool.false_or]

/-- A small word stands out behind one that begins with a letter when it begins with a letter
itself and stays apart. -/
theorem standsOut_iff_apart {word next : String} {c d : Char} {more rest : List Char}
    (hWord : word.toList = c :: more) (hNext : next.toList = d :: rest) (hc : c.isLower = true)
    (hSmall : IsSmall (d :: rest)) :
    StandsOut word next ↔ d.isLower = true ∧ Apart word next := by
  have hLetter : isLetter word = true ↔ ¬2 ≤ word.length := by
    rw [← String.length_toList, isLetter, hWord]
    cases more with
    | nil => simp [hc]
    | cons => simp
  have hSecond : rest.head?.any Char.isLower = next.toList[1]?.any Char.isAlpha := by
    rw [hNext]
    cases rest with
    | nil => rfl
    | cons e rest => exact (hSmall.isAlpha_eq (by simp)).symm
  have hFirst : next.toList[0]?.any Char.isAlpha = d.isLower := by
    rw [hNext]
    exact hSmall.isAlpha_eq (by simp)
  rw [StandsOut, Apart, isClipped, hLetter, hFirst, ← hSecond, hNext]
  by_cases hd : d.isLower = true
  · by_cases hLong : 2 ≤ word.length <;> simp [hd, hLong]
  · simp [hd]

/-- Words stand out, each behind the one before, when all begin with letters and each stays
apart. -/
theorem isChain_standsOut_iff {words : Words} : ∀ {word : String} {c : Char} {more : List Char},
    word.toList = c :: more → c.isLower = true →
      (∀ w ∈ word :: words, w.toList ≠ [] ∧ IsSmall w.toList) →
        ((word :: words).IsChain StandsOut ↔
          IsSpoken (word :: words) ∧ (word :: words).IsChain Apart) := by
  induction words with
  | nil =>
      intro word c more hWord hc hWords
      have hSmall := (hWords word (by simp)).2
      rw [hWord] at hSmall
      refine iff_of_true (.singleton _) ⟨List.forall_mem_singleton.2 ?_, .singleton _⟩
      exact ⟨c, more, hWord, hc, (List.forall_mem_cons.1 hSmall).2⟩
  | cons next words ih =>
      intro word c more hWord hc hWords
      obtain ⟨⟨-, hSmall⟩, hRest⟩ := List.forall_mem_cons.1 hWords
      obtain ⟨hSome, hNextSmall⟩ := hRest next (by simp)
      obtain ⟨d, rest, hNext⟩ := List.exists_cons_of_ne_nil hSome
      rw [hWord] at hSmall
      rw [hNext] at hNextSmall
      have hFirst : ∃ c rest, word.toList = c :: rest ∧ c.isLower = true ∧
          ∀ d ∈ rest, d.isLower = true ∨ d.isDigit = true :=
        ⟨c, more, hWord, hc, (List.forall_mem_cons.1 hSmall).2⟩
      rw [List.isChain_cons_cons, List.isChain_cons_cons, IsSpoken, List.forall_mem_cons,
        standsOut_iff_apart hWord hNext hc hNextSmall]
      constructor
      · rintro ⟨⟨hd, hApart⟩, hChain⟩
        obtain ⟨hSpoken, hOthers⟩ := (ih hNext hd hRest).1 hChain
        exact ⟨⟨hFirst, hSpoken⟩, hApart, hOthers⟩
      · rintro ⟨⟨-, hSpoken⟩, hApart, hOthers⟩
        obtain ⟨e, tail, hText, he, -⟩ := hSpoken next (by simp)
        have hd : d.isLower = true := by
          rw [hNext] at hText
          exact (List.cons.inj hText).1 ▸ he
        exact ⟨⟨hd, hApart⟩, (ih hNext hd hRest).2 ⟨hSpoken, hOthers⟩⟩

/-- Words are read back from a type when all begin with letters and each stays apart. -/
theorem NamesModule.ofLabel_spelled_pascal_iff {words : Words} (h : words.NamesModule) :
    ofLabel (String.ofList (words.spelled .pascal)) = words ↔
      IsSpoken words ∧ words.IsChain Apart := by
  have hLetters : (String.ofList (words.spelled .pascal)).toList.all Char.isAlphanum = true := by
    rw [String.toList_ofList, List.all_eq_true]
    exact fun c hc => isAlphanum_of_mem_spelled h.writable hc
  have hSpoken := isSpoken_ofLabel hLetters (writable_ofLabel_spelled h .pascal)
  constructor
  · intro hBack
    refine ⟨hBack ▸ hSpoken, (spelled_ofLabel_pascal_iff h).1 ?_⟩
    rw [hBack]
  · rintro ⟨hWords, hApart⟩
    exact spelled_pascal_inj hSpoken hWords ((spelled_ofLabel_pascal_iff h).2 hApart)

end Words

namespace Identifier

/-- A name that can be written is read back from its type exactly when each of its words stands
out behind the one before. -/
theorem words_of_pascal_iff {identifier : Identifier} {text : String} (hMade : identifier.Made)
    (h : identifier.render .pascal = .ok text) :
    (Identifier.ofLabel text).words = identifier.words ↔
      identifier.words.IsChain Words.StandsOut := by
  obtain ⟨hWritable, rfl⟩ := render_eq_ok_iff.1 h
  have hNames := Words.namesModule_of_writable hMade hWritable
  have hWords := hNames.isSmall
  refine hNames.ofLabel_spelled_pascal_iff.trans ?_
  obtain ⟨first, others, c, rest, hCons, hFirst, hc, -, -⟩ := hNames.exists_small
  rw [hCons] at hWords ⊢
  exact (Words.isChain_standsOut_iff hFirst hc hWords).symm

/-- One of these names has a single letter in front of another word and is read back. The other
has a digit at the beginning of a word and is not. -/
theorem words_of_pascal_of_use :
    (Identifier.ofLabel "use a_bus").render .pascal = .ok "UseABus" ∧
      (Identifier.ofLabel "UseABus").words = ["use", "a", "bus"] ∧
      (Identifier.ofWords ["use", "2", "buses"]).render .pascal = .ok "Use2Buses" ∧
      (Identifier.ofLabel "Use2Buses").words ≠
        (Identifier.ofWords ["use", "2", "buses"]).words := by
  have hFirst : (Identifier.ofLabel "use a_bus").render .pascal = .ok "UseABus" := by rfl
  have hSecond : (Identifier.ofWords ["use", "2", "buses"]).render .pascal = .ok "Use2Buses" := by
    rfl
  have hWords : (Identifier.ofLabel "use a_bus").words = ["use", "a", "bus"] := by rfl
  refine ⟨hFirst, ?_, hSecond, fun hBack => ?_⟩
  · exact ((words_of_pascal_iff (.ofLabel _) hFirst).2 (by decide)).trans hWords
  · have hChain := (words_of_pascal_iff (.ofWords _) hSecond).1 hBack
    revert hChain
    decide

end Identifier

end CratePlan
