import CratePlan.Pattern.Match
import Mathlib.Data.List.Basic

/-!
# What patterns span

A pattern leads from one spot of a text to another, and what lies between the two is
what it spans. `Pattern.Spans` says this by the tree of the pattern alone: one equation
for each kind of node, without machines and without preferences. Which of several spans
a search finds is not said here, only which there are.

A spot is the text on both sides of it, together with what the groups hold there. Text
that is read moves from one side to the other, so no numbers of characters are added up.

## Main statements

* `Spans.text_eq`: a span stays in its text.
* `reads_of_rounds_one`, `rounds_one_of_reads`: what rounds of one set span.
* `text?_closeAt`: what a group holds when it has been closed.
-/

namespace CratePlan

/-- A place between two parts of a text, and what the groups hold there. -/
structure Spot where
  /-- The text before the place, the nearest character first. -/
  before : List Char
  after : List Char
  held : Held

namespace Spot

/-- The whole text. -/
def text (spot : Spot) : List Char := spot.before.reverse ++ spot.after

/-- The place, as a search sees it. -/
def place (spot : Spot) : Place := ⟨spot.before.length, spot.before.head?, spot.after.head?⟩

/-- The spot where a group begins. -/
def openAt (spot : Spot) (name : String) : Spot :=
  { spot with held := spot.held.openAt name spot.before.length }

/-- The spot where a group ends. -/
def closeAt (spot : Spot) (name : String) : Spot :=
  { spot with held := spot.held.closeAt name spot.before.length }

/-- The text between two spots, if the groups hold the same at both. -/
structure Reads (first : Spot) (text : List Char) (last : Spot) : Prop where
  after : first.after = text ++ last.after
  before : last.before = text.reverse ++ first.before
  held : last.held = first.held

namespace Reads

variable {first middle last : Spot} {text more : List Char}

theorem nil_iff : first.Reads [] last ↔ first = last := by
  constructor
  · rintro ⟨hAfter, hBefore, hHeld⟩
    cases first
    cases last
    simp_all
  · rintro rfl
    exact ⟨rfl, rfl, rfl⟩

theorem append (h : first.Reads text middle) (hMore : middle.Reads more last) :
    first.Reads (text ++ more) last where
  after := by rw [h.after, hMore.after, List.append_assoc]
  before := by rw [hMore.before, h.before, List.reverse_append, List.append_assoc]
  held := hMore.held.trans h.held

/-- What is read can be read in two parts. -/
theorem split (text : List Char) (h : first.Reads (text ++ more) last) :
    ∃ middle, first.Reads text middle ∧ middle.Reads more last := by
  refine ⟨⟨text.reverse ++ first.before, more ++ last.after, first.held⟩, ⟨?_, rfl, rfl⟩,
    ⟨rfl, ?_, h.held⟩⟩
  · rw [h.after, List.append_assoc]
  · rw [h.before, List.reverse_append, List.append_assoc]

/-- What is read stays in the text. -/
theorem text_eq (h : first.Reads text last) : last.text = first.text := by
  rw [Spot.text, Spot.text, h.after, h.before, List.reverse_append, List.reverse_reverse,
    List.append_assoc]

end Reads

end Spot

/-- So many rounds, each of which goes on where the one before has ended. -/
def Rounds (round : Spot → Spot → Prop) : Nat → Spot → Spot → Prop
  | 0, first, last => first = last
  | n + 1, first, last => ∃ middle, round first middle ∧ Rounds round n middle last

theorem Rounds.append {round : Spot → Spot → Prop} {m n : Nat} {middle last : Spot} :
    ∀ {first}, Rounds round m first middle → Rounds round n middle last →
      Rounds round (m + n) first last := by
  induction m with
  | zero =>
      rintro first rfl hRest
      rwa [Nat.zero_add]
  | succ m ih =>
      rintro first ⟨next, hFirst, hMore⟩ hRest
      rw [Nat.succ_add]
      exact ⟨next, hFirst, ih hMore hRest⟩

/-- Some rounds and then others are told apart. -/
theorem Rounds.split {round : Spot → Spot → Prop} {m n : Nat} {last : Spot} :
    ∀ {first}, Rounds round (m + n) first last →
      ∃ middle, Rounds round m first middle ∧ Rounds round n middle last := by
  induction m with
  | zero =>
      intro first h
      rw [Nat.zero_add] at h
      exact ⟨first, rfl, h⟩
  | succ m ih =>
      intro first h
      rw [Nat.succ_add] at h
      obtain ⟨next, hFirst, hRest⟩ := h
      obtain ⟨middle, hBefore, hBehind⟩ := ih hRest
      exact ⟨middle, ⟨next, hFirst, hBefore⟩, hBehind⟩

theorem Rounds.add_iff {round : Spot → Spot → Prop} {m n : Nat} {first last : Spot} :
    Rounds round (m + n) first last ↔
      ∃ middle, Rounds round m first middle ∧ Rounds round n middle last :=
  ⟨Rounds.split, fun ⟨_, hFirst, hRest⟩ => hFirst.append hRest⟩

/-- The last of some rounds can be told apart instead of the first. -/
theorem Rounds.succ_iff {round : Spot → Spot → Prop} {n : Nat} {first last : Spot} :
    Rounds round (n + 1) first last ↔
      ∃ middle, Rounds round n first middle ∧ round middle last := by
  have hOne : ∀ middle, Rounds round 1 middle last ↔ round middle last := fun middle =>
    ⟨fun ⟨_, hLast, hSame⟩ => hSame ▸ hLast, fun hLast => ⟨last, hLast, rfl⟩⟩
  rw [Rounds.add_iff]
  simp only [hOne]

/-- Some rounds, at least one, are a round and then any number. -/
theorem Rounds.exists_succ_iff {round : Spot → Spot → Prop} {first last : Spot} :
    (∃ n, Rounds round (n + 1) first last) ↔
      ∃ middle, round first middle ∧ ∃ n, Rounds round n middle last := by
  simp only [Rounds, exists_and_left.symm]
  exact exists_comm

/-- Any number of rounds is at least one or none at all. -/
theorem Rounds.exists_iff {round : Spot → Spot → Prop} {first last : Spot} :
    (∃ n, Rounds round n first last) ↔ (∃ n, Rounds round (n + 1) first last) ∨ first = last := by
  constructor
  · rintro ⟨n, hRounds⟩
    cases n with
    | zero => exact .inr hRounds
    | succ n => exact .inl ⟨n, hRounds⟩
  · rintro (⟨n, hRounds⟩ | hSame)
    · exact ⟨n + 1, hRounds⟩
    · exact ⟨0, hSame⟩

/-- At most one round more is none at all or a round in front. -/
theorem Rounds.exists_le_succ_iff {round : Spot → Spot → Prop} {m : Nat} {first last : Spot} :
    (∃ k ≤ m + 1, Rounds round k first last) ↔
      (∃ middle, round first middle ∧ ∃ k ≤ m, Rounds round k middle last) ∨ first = last := by
  constructor
  · rintro ⟨k, hk, hRounds⟩
    cases k with
    | zero => exact .inr hRounds
    | succ k =>
        obtain ⟨middle, hFirst, hRest⟩ := hRounds
        exact .inl ⟨middle, hFirst, k, Nat.le_of_succ_le_succ hk, hRest⟩
  · rintro (⟨middle, hFirst, k, hk, hRest⟩ | hSame)
    · exact ⟨k + 1, Nat.succ_le_succ hk, middle, hFirst, hRest⟩
    · exact ⟨0, Nat.zero_le _, hSame⟩

theorem Rounds.text_eq {round : Spot → Spot → Prop}
    (hRound : ∀ first last, round first last → last.text = first.text) {n : Nat} {last : Spot} :
    ∀ {first}, Rounds round n first last → last.text = first.text := by
  induction n with
  | zero =>
      rintro first rfl
      rfl
  | succ n ih =>
      rintro first ⟨middle, hFirst, hRest⟩
      exact (ih hRest).trans (hRound first middle hFirst)

namespace Pattern

/-- The pattern leads from one spot to another. Where a repetition is asked for more often
than it is allowed, it is carried out as often as it is asked for. -/
def Spans : Pattern → Spot → Spot → Prop
  | empty, first, last => first = last
  | literal text, first, last => first.Reads text last
  | one set, first, last => ∃ c, set.holds c = true ∧ first.Reads [c] last
  | boundary condition, first, last =>
    condition.holds first.before.head? first.after.head? = true ∧ first = last
  | group _ none body, first, last => Spans body first last
  | group _ (some name) body, first, last =>
    ∃ inner, Spans body (first.openAt name) inner ∧ last = inner.closeAt name
  | seq left right, first, last => ∃ middle, Spans left first middle ∧ Spans right middle last
  | either left right, first, last => Spans left first last ∨ Spans right first last
  | repeated least most _ body, first, last =>
    ∃ n, least ≤ n ∧ (∀ bound, most = some bound → n ≤ max least bound) ∧
      Rounds (Spans body) n first last

/-- A span stays in its text. -/
theorem Spans.text_eq {pattern : Pattern} :
    ∀ {first last : Spot}, pattern.Spans first last → last.text = first.text := by
  induction pattern with
  | empty =>
      rintro first last rfl
      rfl
  | literal text =>
      intro first last h
      exact Spot.Reads.text_eq h
  | one set =>
      rintro first last ⟨c, -, h⟩
      exact h.text_eq
  | boundary condition =>
      rintro first last ⟨-, rfl⟩
      rfl
  | group number name body ih =>
      intro first last h
      cases name with
      | none => exact ih h
      | some name =>
          obtain ⟨inner, hBody, rfl⟩ := h
          have hInner := ih hBody
          exact hInner
  | seq left right ihLeft ihRight =>
      rintro first last ⟨middle, hLeft, hRight⟩
      exact (ihRight hRight).trans (ihLeft hLeft)
  | either left right ihLeft ihRight =>
      rintro first last (h | h)
      · exact ihLeft h
      · exact ihRight h
  | repeated least most greedy body ih =>
      rintro first last ⟨n, -, -, h⟩
      exact h.text_eq fun _ _ => ih

/-- Rounds of one set span characters of the set. -/
theorem reads_of_rounds_one {set : CharSet} {n : Nat} {last : Spot} :
    ∀ {first}, Rounds (Spans (.one set)) n first last →
      ∃ text, text.length = n ∧ text.all set.holds = true ∧ first.Reads text last := by
  induction n with
  | zero =>
      rintro first rfl
      exact ⟨[], rfl, rfl, Spot.Reads.nil_iff.2 rfl⟩
  | succ n ih =>
      rintro first ⟨middle, ⟨c, hc, hFirst⟩, hRest⟩
      obtain ⟨text, hLength, hText, hReads⟩ := ih hRest
      exact ⟨c :: text, by simp [hLength], by simp [hc, hText], hFirst.append hReads⟩

/-- Characters of a set are spanned by rounds of it. -/
theorem rounds_one_of_reads {set : CharSet} {text : List Char} {last : Spot} :
    ∀ {first}, text.all set.holds = true → first.Reads text last →
      Rounds (Spans (.one set)) text.length first last := by
  induction text with
  | nil =>
      intro first _ hReads
      exact Spot.Reads.nil_iff.1 hReads
  | cons c text ih =>
      intro first hText hReads
      rw [List.all_cons, Bool.and_eq_true] at hText
      obtain ⟨middle, hFirst, hRest⟩ := Spot.Reads.split [c] hReads
      exact ⟨middle, ⟨c, hText.1, hFirst⟩, ih hText.2 hRest⟩

end Pattern

/-- A group that is closed behind what has been read since it was opened holds just
that. -/
theorem Spot.text?_closeAt {first inner : Spot} {name : String} {text : List Char}
    (h : (first.openAt name).Reads text inner) :
    (inner.closeAt name).held.text? name first.text = some text := by
  have hAfter : first.after = text ++ inner.after := h.after
  have hBefore : inner.before = text.reverse ++ first.before := h.before
  have hHeld : inner.held = first.held.openAt name first.before.length := h.held
  have hText : first.text = first.before.reverse ++ (text ++ inner.after) := by
    rw [Spot.text, hAfter]
  simp [closeAt, hHeld, Held.openAt, Held.closeAt, Held.text?, hText, hBefore]

/-- Other groups hold what they held before. -/
theorem Spot.text?_closeAt_of_ne {first inner : Spot} {name other : String} {text whole : List Char}
    (h : (first.openAt name).Reads text inner) (hOther : other ≠ name) :
    (inner.closeAt name).held.text? other whole = first.held.text? other whole := by
  have hHeld : inner.held = first.held.openAt name first.before.length := h.held
  have hName : (other == name) = false := beq_false_of_ne hOther
  simp [closeAt, hHeld, Held.openAt, Held.closeAt, Held.text?, List.lookup_cons, hName]

end CratePlan
