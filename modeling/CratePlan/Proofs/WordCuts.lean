import CratePlan.Proofs.Lowercase
import CratePlan.Proofs.Words

/-!
# Where a label is cut

A label is read from left to right with the part of a word that has been read in hand, and
that this part is not empty stands for "the character before is no separator". What comes out
can be said without the reading. Separators leave runs of other characters, and each run is
cut in front of certain capitals. Whether it is cut at a place is decided by the character
before that place and the two behind it.

`IsCut` says this of one run and `IsSplit` of a label, both of a list of pieces that may come
from anywhere. There is one such list, and its pieces are those of the label.

## Main statements

* `cutBetween_cons_iff`: the reading tests for what a cut is.
* `isCut_piecesFrom`: what is cut off a run while it is read.
* `IsSplit.eq`: there is one list of pieces at most.
* `words_of_cuts`: the words of a label are the pieces that it is cut into.
-/

namespace CratePlan.Words

open CratePlan.Text

/-- A word begins between two parts of a run: with a capital behind a small letter or a digit,
or with a capital behind another one and in front of a small letter. -/
def CutBetween (before after : List Char) : Prop :=
  ∃ last c, before.getLast? = some last ∧ after.head? = some c ∧ c.isUpper = true ∧
    (last.isLower = true ∨ last.isDigit = true ∨
      (last.isUpper = true ∧ ∃ next, after[1]? = some next ∧ next.isLower = true))

/-- The first few of the pieces make up `before`. -/
def EndsWith (pieces : List (List Char)) (before : List Char) : Prop :=
  ∃ front back, pieces = front ++ back ∧ front.flatten = before

/-- The pieces make up the run, none is empty, and one ends exactly where a word begins. -/
structure IsCut (run : List Char) (pieces : List (List Char)) : Prop where
  flatten : pieces.flatten = run
  ne_nil : ∀ piece ∈ pieces, piece ≠ []
  ends_iff : ∀ before after, before ++ after = run → before ≠ [] → after ≠ [] →
    (EndsWith pieces before ↔ CutBetween before after)

/-- The longest parts of a label without separators, in order. -/
def runs (label : List Char) : List (List Char) :=
  (label.splitOnP isSeparator).filter fun run => !run.isEmpty

/-- The pieces are those that the runs of a label are cut into, one run after the other. -/
def IsSplit (label : List Char) (pieces : List (List Char)) : Prop :=
  ∃ parts, List.Forall₂ IsCut (runs label) parts ∧ pieces = parts.flatten

/-! ## Places of a run -/

/-- Whether a word begins at a place does not depend on what is farther in front of it. -/
theorem cutBetween_append_iff (far : List Char) {before after : List Char}
    (hBefore : before ≠ []) :
    CutBetween (far ++ before) after ↔ CutBetween before after := by
  rw [CutBetween, CutBetween, List.getLast?_append_of_ne_nil _ hBefore]

/-- A word begins with the next character when the reading of the label says so. -/
theorem cutBetween_cons_iff {current rest : List Char} {c : Char} :
    CutBetween current.reverse (c :: rest) ↔
      current.head?.any (beginsWord · c rest) = true := by
  have hNext : (∃ next, (c :: rest)[1]? = some next ∧ next.isLower = true) ↔
      rest.head?.any Char.isLower = true := by
    rw [List.getElem?_cons_succ, ← List.head?_eq_getElem?, Option.any_eq_true]
  unfold CutBetween
  simp only [hNext, List.getLast?_reverse, List.head?_cons, Option.some.injEq, Option.any_eq_true,
    beginsWord, Bool.and_eq_true, Bool.or_eq_true, exists_eq_left', exists_and_left, or_assoc]

/-- A character has no place inside it. -/
theorem append_ne_singleton {before after : List Char} (hBefore : before ≠ []) (hAfter : after ≠ [])
    (c : Char) : before ++ after ≠ [c] := by
  intro h
  rcases List.append_eq_singleton_iff.1 h with ⟨hEmpty, -⟩ | ⟨-, hEmpty⟩
  · exact hBefore hEmpty
  · exact hAfter hEmpty

/-- Behind its first piece, a row of pieces ends where the others do. -/
theorem endsWith_cons_iff {piece before : List Char} {pieces : List (List Char)}
    (hBefore : before ≠ []) :
    EndsWith (piece :: pieces) before ↔
      ∃ inner, EndsWith pieces inner ∧ before = piece ++ inner := by
  constructor
  · rintro ⟨front, back, hPieces, rfl⟩
    cases front with
    | nil => exact absurd rfl hBefore
    | cons first front =>
        obtain ⟨rfl, rfl⟩ := List.cons.inj hPieces
        exact ⟨front.flatten, ⟨front, back, rfl, rfl⟩, List.flatten_cons⟩
  · rintro ⟨-, ⟨front, back, rfl, rfl⟩, rfl⟩
    exact ⟨piece :: front, back, rfl, List.flatten_cons⟩

theorem endsWith_nil (pieces : List (List Char)) : EndsWith pieces [] :=
  ⟨[], pieces, rfl, rfl⟩

namespace IsCut

variable {run piece : List Char} {pieces others : List (List Char)}

/-- Nothing is cut off a part in which no word begins. -/
theorem single (hPiece : piece ≠ [])
    (hWhole : ∀ before after, before ++ after = piece → before ≠ [] → after ≠ [] →
      ¬CutBetween before after) : IsCut piece [piece] where
  flatten := by simp
  ne_nil := by simpa using hPiece
  ends_iff := by
    intro before after hRun hBefore hAfter
    refine iff_of_false (fun hEnds => ?_) (hWhole before after hRun hBefore hAfter)
    obtain ⟨inner, -, rfl⟩ := (endsWith_cons_iff hBefore).1 hEnds
    rw [List.append_assoc, List.append_right_eq_self, List.append_eq_nil_iff] at hRun
    exact hAfter hRun.2

/-- A part in which no word begins, in front of a run that begins with a word. -/
theorem cons (h : IsCut run pieces) (hPiece : piece ≠ []) (hBegins : CutBetween piece run)
    (hWhole : ∀ before after, before ++ after = piece → before ≠ [] → after ≠ [] →
      ¬CutBetween before (after ++ run)) : IsCut (piece ++ run) (piece :: pieces) where
  flatten := by rw [List.flatten_cons, h.flatten]
  ne_nil := List.forall_mem_cons.2 ⟨hPiece, h.ne_nil⟩
  ends_iff := by
    intro before after hAll hBefore hAfter
    rw [endsWith_cons_iff hBefore]
    -- The place is inside the part, or not.
    rcases List.append_eq_append_iff.1 hAll with ⟨inner, rfl, rfl⟩ | ⟨outer, rfl, rfl⟩
    · by_cases hEnd : inner = []
      · subst hEnd
        rw [List.append_nil] at hBegins ⊢
        exact iff_of_true ⟨[], endsWith_nil pieces, (List.append_nil before).symm⟩ hBegins
      · refine iff_of_false ?_ (hWhole before inner rfl hBefore hEnd)
        rintro ⟨more, -, hMore⟩
        rw [List.append_assoc, List.self_eq_append_right, List.append_eq_nil_iff] at hMore
        exact hEnd hMore.1
    · simp only [List.append_cancel_left_eq, exists_eq_right']
      by_cases hEnd : outer = []
      · subst hEnd
        rw [List.append_nil]
        exact iff_of_true (endsWith_nil pieces) hBegins
      · rw [cutBetween_append_iff piece hEnd, h.ends_iff outer after rfl hEnd hAfter]

/-- What is behind the first piece is cut by itself. -/
theorem tail (h : IsCut run (piece :: pieces)) : IsCut pieces.flatten pieces where
  flatten := rfl
  ne_nil := (List.forall_mem_cons.1 h.ne_nil).2
  ends_iff := by
    intro before after hRun hBefore hAfter
    have hPiece : piece ++ before ≠ [] := by simp [hBefore]
    have hAll : (piece ++ before) ++ after = run := by
      rw [List.append_assoc, hRun, ← h.flatten, List.flatten_cons]
    rw [← cutBetween_append_iff piece hBefore, ← h.ends_iff _ after hAll hPiece hAfter,
      endsWith_cons_iff hPiece]
    simp only [List.append_cancel_left_eq, exists_eq_right']

/-- Of two cuts of a run, the first piece of one begins with that of the other. -/
theorem head_isPrefix {other : List Char} (h : IsCut run (piece :: pieces))
    (hOther : IsCut run (other :: others)) : other <+: piece := by
  have hPiece := (List.forall_mem_cons.1 h.ne_nil).1
  have hAll : piece ++ pieces.flatten = run := by rw [← h.flatten, List.flatten_cons]
  by_cases hLast : pieces.flatten = []
  · rw [hLast, List.append_nil] at hAll
    exact ⟨others.flatten, by rw [← List.flatten_cons, hOther.flatten, hAll]⟩
  · have hEnds : EndsWith (piece :: pieces) piece := ⟨[piece], pieces, rfl, by simp⟩
    have hBegins := (h.ends_iff piece _ hAll hPiece hLast).1 hEnds
    obtain ⟨inner, -, hInner⟩ :=
      (endsWith_cons_iff hPiece).1 ((hOther.ends_iff piece _ hAll hPiece hLast).2 hBegins)
    exact ⟨inner, hInner.symm⟩

/-- A run is cut in one way. -/
theorem eq (h : IsCut run pieces) (hOther : IsCut run others) : pieces = others := by
  induction pieces generalizing run others with
  | nil =>
      cases others with
      | nil => rfl
      | cons other others =>
          have hEmpty : (other :: others).flatten = [] := hOther.flatten.trans h.flatten.symm
          rw [List.flatten_cons, List.append_eq_nil_iff] at hEmpty
          exact absurd hEmpty.1 (List.forall_mem_cons.1 hOther.ne_nil).1
  | cons piece pieces ih =>
      cases others with
      | nil =>
          have hEmpty : (piece :: pieces).flatten = [] := h.flatten.trans hOther.flatten.symm
          rw [List.flatten_cons, List.append_eq_nil_iff] at hEmpty
          exact absurd hEmpty.1 (List.forall_mem_cons.1 h.ne_nil).1
      | cons other others =>
          have hShort := h.head_isPrefix hOther
          have hLong := hOther.head_isPrefix h
          obtain rfl : piece = other := hLong.eq_of_length_le hShort.length_le
          have hFlatten := h.flatten.trans hOther.flatten.symm
          rw [List.flatten_cons, List.flatten_cons] at hFlatten
          have hRest := hOther.tail
          rw [← List.append_cancel_left hFlatten] at hRest
          rw [ih h.tail hRest]

end IsCut

/-- A label is split in one way. -/
theorem IsSplit.eq {label : List Char} {pieces others : List (List Char)}
    (h : IsSplit label pieces) (hOther : IsSplit label others) : pieces = others := by
  obtain ⟨parts, hParts, rfl⟩ := h
  obtain ⟨otherParts, hOtherParts, rfl⟩ := hOther
  rw [List.right_unique_forall₂' (fun _ _ _ hPart hOther => hPart.eq hOther) hParts hOtherParts]

/-! ## Pieces of a label -/

/-- While a run is read, the part in hand is cut off where a word begins, and nowhere else. -/
theorem isCut_piecesFrom {rest : List Char} (hRest : ∀ c ∈ rest, isSeparator c = false) :
    ∀ current, current ≠ [] →
      (∀ before after, before ++ after = current.reverse → before ≠ [] → after ≠ [] →
        ¬CutBetween before (after ++ rest)) →
      IsCut (current.reverse ++ rest) (piecesFrom current rest) := by
  induction rest with
  | nil =>
      intro current hCurrent hWhole
      have hPieces : piecesFrom current [] = [current.reverse] := by
        simp [piecesFrom, finish, hCurrent]
      rw [List.append_nil, hPieces]
      refine .single (by simpa using hCurrent) fun before after hRun hBefore hAfter => ?_
      simpa using hWhole before after hRun hBefore hAfter
  | cons c rest ih =>
      intro current hCurrent hWhole
      obtain ⟨hc, hRest⟩ := List.forall_mem_cons.1 hRest
      by_cases hBegins : CutBetween current.reverse (c :: rest)
      · have hPieces : piecesFrom current (c :: rest) = current.reverse :: piecesFrom [c] rest := by
          simp [piecesFrom, hc, cutBetween_cons_iff.1 hBegins, finish, hCurrent]
        rw [hPieces]
        refine IsCut.cons (ih hRest [c] (by simp) ?_) (by simpa using hCurrent) hBegins hWhole
        intro before after hOne hBefore hAfter
        exact absurd hOne (append_ne_singleton hBefore hAfter c)
      · have hPieces : piecesFrom current (c :: rest) = piecesFrom (c :: current) rest := by
          rw [cutBetween_cons_iff] at hBegins
          simp [piecesFrom, hc, hBegins]
        have hCons : current.reverse ++ c :: rest = (c :: current).reverse ++ rest := by simp
        rw [hPieces, hCons]
        refine ih hRest (c :: current) (by simp) ?_
        -- A new place has come about in front of the character.
        intro before after hRun hBefore hAfter
        obtain ⟨inner, last, rfl⟩ := List.eq_nil_or_concat' after |>.resolve_left hAfter
        rw [List.reverse_cons, ← List.append_assoc] at hRun
        obtain ⟨hInner, hLast⟩ := List.append_inj' hRun rfl
        obtain rfl : last = c := by simpa using hLast
        by_cases hEnd : inner = []
        · subst hEnd
          rw [List.append_nil] at hInner
          subst hInner
          exact hBegins
        · have hOld := hWhole before inner hInner hBefore hEnd
          rwa [List.append_assoc, List.singleton_append]

/-- A run is cut into its pieces. -/
theorem isCut_pieces {run : List Char} (hRun : run ≠ [])
    (hPlain : ∀ c ∈ run, isSeparator c = false) : IsCut run (pieces run) := by
  obtain ⟨c, rest, rfl⟩ := List.exists_cons_of_ne_nil hRun
  obtain ⟨hc, hRest⟩ := List.forall_mem_cons.1 hPlain
  have hPieces : pieces (c :: rest) = piecesFrom [c] rest := by simp [pieces, piecesFrom, hc]
  rw [hPieces]
  refine isCut_piecesFrom hRest [c] (by simp) fun before after hOne hBefore hAfter => ?_
  exact absurd hOne (append_ne_singleton hBefore hAfter c)

/-! ## Words of a label -/

theorem runs_append_separator {c : Char} (hc : isSeparator c = true) (front back : List Char) :
    runs (front ++ c :: back) = runs front ++ runs back := by
  rw [runs, List.splitOnP_append_cons _ _ hc, List.filter_append]
  rfl

theorem runs_of_plain {label : List Char} (h : ∀ c ∈ label, isSeparator c = false) :
    runs label = if label = [] then [] else [label] := by
  rw [runs, List.splitOnP_eq_singleton h]
  cases label <;> simp

/-- What holds of labels without separators, and of two labels with a separator between them
if it holds of both, holds of every label. -/
theorem separator_induction {P : List Char → Prop}
    (plain : ∀ label, (∀ c ∈ label, isSeparator c = false) → P label)
    (apart : ∀ front c back, isSeparator c = true → P front → P back → P (front ++ c :: back))
    (label : List Char) : P label := by
  induction hLength : label.length using Nat.strong_induction_on generalizing label with
  | _ length ih =>
      by_cases hPlain : ∀ c ∈ label, isSeparator c = false
      · exact plain label hPlain
      · simp only [not_forall, Bool.not_eq_false] at hPlain
        obtain ⟨c, hMem, hc⟩ := hPlain
        obtain ⟨front, back, rfl⟩ := List.append_of_mem hMem
        rw [List.length_append, List.length_cons] at hLength
        exact apart front c back hc (ih _ (by omega) front rfl) (ih _ (by omega) back rfl)

/-- The pieces of a label are those of its runs. -/
theorem pieces_eq_flatMap_runs (label : List Char) :
    pieces label = (runs label).flatMap pieces := by
  induction label using separator_induction with
  | plain label hPlain =>
      rw [runs_of_plain hPlain]
      split
      case isTrue hEmpty => simp [hEmpty, pieces, piecesFrom, finish]
      case isFalse => simp
  | apart front c back hc ihFront ihBack =>
      rw [pieces_append_separator hc, runs_append_separator hc, List.flatMap_append, ihFront,
        ihBack]

/-- A run has characters and no separators. -/
theorem plain_of_mem_runs {label run : List Char} (h : run ∈ runs label) :
    run ≠ [] ∧ ∀ c ∈ run, isSeparator c = false := by
  induction label using separator_induction with
  | plain label hPlain =>
      rw [runs_of_plain hPlain] at h
      split at h
      case isTrue => cases h
      case isFalse hSome => exact List.mem_singleton.1 h ▸ ⟨hSome, hPlain⟩
  | apart front c back hc ihFront ihBack =>
      rw [runs_append_separator hc] at h
      exact (List.mem_append.1 h).elim ihFront ihBack

/-- A label is split into its pieces. -/
theorem isSplit_pieces (label : List Char) : IsSplit label (pieces label) := by
  refine ⟨(runs label).map pieces, ?_, ?_⟩
  · rw [List.forall₂_map_right_iff, List.forall₂_same]
    intro run hRun
    obtain ⟨hSome, hPlain⟩ := plain_of_mem_runs hRun
    exact isCut_pieces hSome hPlain
  · rw [pieces_eq_flatMap_runs, List.flatMap_def]

/-- The words of a label are the pieces that it is split into, each in small letters. None is
empty, and together the pieces are the label without its separators. -/
theorem words_of_cuts (label : String) :
    ∃ cut, (∀ others, IsSplit label.toList others ↔ others = cut) ∧
      ofLabel label = cut.map lowered ∧ "" ∉ ofLabel label ∧
      cut.flatten = label.toList.filter fun c => !isSeparator c := by
  have hSplit := isSplit_pieces label.toList
  refine ⟨pieces label.toList, fun others => ⟨fun hOther => hOther.eq hSplit, ?_⟩, rfl, ?_,
    flatten_pieces label.toList⟩
  · rintro rfl
    exact hSplit
  · intro hEmpty
    obtain ⟨piece, hPiece, hLowered⟩ := List.mem_map.1 hEmpty
    have hNil : lowercase piece = [] := by simpa [lowered] using hLowered
    exact lowercase_ne_nil (pieces_ne_nil hPiece) hNil

end CratePlan.Words
