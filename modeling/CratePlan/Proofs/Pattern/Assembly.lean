import CratePlan.Proofs.Pattern.Spans
import Mathlib.Logic.Relation

/-!
# How machines are put together

A machine is built from its end: the states of a pattern are put in front of a state that is
there already. States that are built later do not touch those that were there, but for the state
in which a repetition ends its rounds: it is put in its place after the body.

A part of a machine stands for a relation between spots. This can be read in two ways, that
nothing but the relation is accepted on the part and that all of it is. Either reading is
`Compositional`: parts are put together as the relations are that they stand for. Nothing else
about a reading is needed to see that the states of a pattern stand for its spans, so this is
shown once for all of them.

## Main statements

* `loop_states`: the states of a repetition, with the one that gets its place last.
* `Compositional.assembles_build`: the states of a pattern stand for its spans.
-/

namespace CratePlan

/-- The state leads from one spot to another spot and to the state `next`. -/
def MachineState.Goes : MachineState → Spot → Nat → Spot → Prop
  | fork preferred other, first, next, last => (next = preferred ∨ next = other) ∧ first = last
  | read set target, first, next, last => next = target ∧ (Pattern.one set).Spans first last
  | check condition target, first, next, last =>
    next = target ∧ (Pattern.boundary condition).Spans first last
  | opening name target, first, next, last => next = target ∧ last = first.openAt name
  | closing name target, first, next, last => next = target ∧ last = first.closeAt name
  | done, _, _, _ => False

namespace Machine

/-! ## Adding states -/

/-- The states that were there still are what they were. -/
structure Extends (old new : Array MachineState) : Prop where
  size_le : old.size ≤ new.size
  getElem?_eq : ∀ i < old.size, new[i]? = old[i]?

/-- The machine has the states that were added. -/
def Includes (old new states : Array MachineState) : Prop :=
  ∀ i, old.size ≤ i → i < new.size → states[i]? = new[i]?

section

variable {old middle new states : Array MachineState}

theorem Extends.refl (old : Array MachineState) : Extends old old := ⟨Nat.le_refl _, fun _ _ => rfl⟩

theorem Extends.trans (h : Extends old middle) (hMore : Extends middle new) : Extends old new where
  size_le := Nat.le_trans h.size_le hMore.size_le
  getElem?_eq i hi := by
    rw [hMore.getElem?_eq i (Nat.lt_of_lt_of_le hi h.size_le), h.getElem?_eq i hi]

theorem extends_push (old : Array MachineState) (state : MachineState) :
    Extends old (old.push state) where
  size_le := by simp
  getElem?_eq i hi := by rw [Array.getElem?_push, if_neg (Nat.ne_of_lt hi)]

/-- States that are added later leave those that were added before. -/
theorem Includes.before (h : Includes old new states) (hMore : Extends middle new) :
    Includes old middle states := by
  intro i hOld hMiddle
  rw [h i hOld (Nat.lt_of_lt_of_le hMiddle hMore.size_le), hMore.getElem?_eq i hMiddle]

theorem Includes.after (h : Includes old new states) (hFirst : Extends old middle) :
    Includes middle new states :=
  fun i hMiddle hNew => h i (Nat.le_trans hFirst.size_le hMiddle) hNew

theorem Includes.getElem?_size {state : MachineState} (h : Includes old (old.push state) states) :
    states[old.size]? = some state := by
  rw [h old.size (Nat.le_refl _) (by simp), Array.getElem?_push_size]

/-- The state that a loop leads back to is built first and gets its place when the body is
there. The states of the body are left as they were. -/
theorem loop_states {body : Nat → Builder Nat} {old : Array MachineState} (greedy : Bool)
    (next : Nat) (hBody : Extends (old.push .done) (body old.size (old.push .done)).2) :
    Extends old (loop greedy body next old).2 ∧
      ∀ states, Includes old (loop greedy body next old).2 states →
        states[old.size]? = some (choice greedy (body old.size (old.push .done)).1 next) ∧
          Includes (old.push .done) (body old.size (old.push .done)).2 states := by
  rcases hBuilt : body old.size (old.push .done) with ⟨round, built⟩
  rw [hBuilt] at hBody
  have hLoop : loop greedy body next old =
      (((body old.size (old.push .done)).1, old.size),
        (body old.size (old.push .done)).2.setIfInBounds old.size
          (choice greedy (body old.size (old.push .done)).1 next)) := rfl
  rw [hLoop, hBuilt]
  have hLt : old.size < built.size := Nat.lt_of_lt_of_le (by simp) hBody.size_le
  refine ⟨⟨by simp [Nat.le_of_lt hLt], fun i hi => ?_⟩, fun states hStates => ⟨?_, ?_⟩⟩
  · rw [Array.getElem?_setIfInBounds_ne (Nat.ne_of_gt hi)]
    exact ((extends_push old .done).trans hBody).getElem?_eq i hi
  · rw [hStates old.size (Nat.le_refl _) (by simpa using hLt)]
    exact Array.getElem?_setIfInBounds_self_of_lt hLt
  · intro i hStart hEnd
    rw [Array.size_push] at hStart
    rw [hStates i (by omega) (by simpa using hEnd), Array.getElem?_setIfInBounds_ne (by omega)]

/-- A state that leads to a round or out leads like a fork, whichever is preferred. -/
theorem choice_cases {greedy : Bool} {entry round out : Nat}
    (hState : states[entry]? = some (choice greedy round out)) :
    states[entry]? = some (.fork round out) ∨ states[entry]? = some (.fork out round) := by
  cases greedy
  · exact .inr hState
  · exact .inl hState

end

/-! ## Readings -/

/-- What it may mean that a machine leads along a relation from one state to another, if parts
are put together as their relations are. -/
structure Compositional
    (Leads : Array MachineState → (Spot → Spot → Prop) → Nat → Nat → Prop) : Prop where
  refl : ∀ states state, Leads states Eq state state
  comp : ∀ {states along further entry middle next}, Leads states along entry middle →
    Leads states further middle next → Leads states (Relation.Comp along further) entry next
  /-- A state with one way on. -/
  step : ∀ {states along entry next} {state : MachineState}, states[entry]? = some state →
    state ≠ .done →
      (∀ first target last, state.Goes first target last ↔ target = next ∧ along first last) →
        Leads states along entry next
  /-- A state with two ways on. -/
  fork : ∀ {states along further entry preferred other next},
    states[entry]? = some (.fork preferred other) → Leads states along preferred next →
      Leads states further other next →
        Leads states (fun first last => along first last ∨ further first last) entry next
  /-- A state that leads back to a body or on. -/
  loop : ∀ {states along greedy back round next},
    states[back]? = some (choice greedy round next) → Leads states along round back →
      Leads states (fun first last => ∃ n, Rounds along n first last) back next

/-- The builder adds states only, and in any machine that has them the first of them leads along
a relation to the state `next`. -/
def Assembles (Leads : Array MachineState → (Spot → Spot → Prop) → Nat → Nat → Prop)
    (along : Spot → Spot → Prop) (next : Nat) (builder : Builder Nat) : Prop :=
  ∀ old, Extends old (builder old).2 ∧
    ∀ states, Includes old (builder old).2 states → Leads states along (builder old).1 next

namespace Compositional

variable {Leads : Array MachineState → (Spot → Spot → Prop) → Nat → Nat → Prop}
  {states : Array MachineState} {along further : Spot → Spot → Prop} {entry next : Nat}

/-- A relation may be written in another way. -/
theorem congr (h : Leads states along entry next)
    (hSame : ∀ first last, along first last ↔ further first last) :
    Leads states further entry next := by
  have hRelation : along = further := funext₂ fun first last => propext (hSame first last)
  rwa [← hRelation]

theorem assembles_congr {builder : Builder Nat} (h : Assembles Leads along next builder)
    (hSame : ∀ first last, along first last ↔ further first last) :
    Assembles Leads further next builder := by
  intro old
  obtain ⟨hExtends, hLeads⟩ := h old
  exact ⟨hExtends, fun states hStates => congr (hLeads states hStates) hSame⟩

variable (hLeads : Compositional Leads)
include hLeads

theorem choice {greedy : Bool} {round out : Nat}
    (hState : states[entry]? = some (choice greedy round out))
    (hRound : Leads states along round next) (hOut : Leads states further out next) :
    Leads states (fun first last => along first last ∨ further first last) entry next := by
  rcases choice_cases hState with hFork | hFork
  · exact hLeads.fork hFork hRound hOut
  · exact congr (hLeads.fork hFork hOut hRound) fun _ _ => or_comm

theorem assembles_pure (next : Nat) : Assembles Leads Eq next (pure next) :=
  fun old => ⟨Extends.refl old, fun states _ => hLeads.refl states next⟩

/-- What stands behind is built first. -/
theorem assembles_bind {behind : Builder Nat} {front : Nat → Builder Nat}
    (hBehind : Assembles Leads further next behind)
    (hFront : ∀ middle, Assembles Leads along middle (front middle)) :
    Assembles Leads (Relation.Comp along further) next (behind >>= front) := by
  intro old
  obtain ⟨hExtends, hRest⟩ := hBehind old
  obtain ⟨hMore, hFirst⟩ := hFront (behind old).1 (behind old).2
  refine ⟨hExtends.trans hMore, fun states hStates => ?_⟩
  exact hLeads.comp (hFirst states (hStates.after hExtends))
    (hRest states (hStates.before hMore))

theorem assembles_add {state : MachineState} (hDone : state ≠ .done)
    (hGoes : ∀ first target last,
      state.Goes first target last ↔ target = next ∧ along first last) :
    Assembles Leads along next (add state) := fun old =>
  ⟨extends_push old state, fun _ hStates => hLeads.step hStates.getElem?_size hDone hGoes⟩

theorem assembles_readAll (next : Nat) (text : List Char) :
    Assembles Leads (Pattern.Spans (.literal text)) next (readAll next text) := by
  induction text with
  | nil =>
      apply assembles_congr (hLeads.assembles_pure next)
      intro first last
      exact Spot.Reads.nil_iff.symm
  | cons c rest ih =>
      have hRead : ∀ middle, Assembles Leads (Pattern.Spans (.one (.single c))) middle
          (add (.read (.single c) middle)) :=
        fun middle => hLeads.assembles_add (by simp) fun _ _ _ => Iff.rfl
      apply assembles_congr (hLeads.assembles_bind ih hRead)
      intro first last
      constructor
      · rintro ⟨middle, ⟨d, hChar, hFirst⟩, hRest⟩
        rw [CharSet.holds_single, decide_eq_true_eq] at hChar
        exact hChar ▸ hFirst.append hRest
      · intro h
        obtain ⟨middle, hFirst, hRest⟩ := Spot.Reads.split [c] h
        exact ⟨middle, ⟨c, by simp, hFirst⟩, hRest⟩

/-! ## Repetitions -/

section

variable {body : Nat → Builder Nat} (hBody : ∀ next, Assembles Leads along next (body next))
include hBody

theorem assembles_copies (n : Nat) :
    ∀ next, Assembles Leads (Rounds along n) next (copies body n next) := by
  induction n with
  | zero => exact hLeads.assembles_pure
  | succ n ih =>
      intro next
      apply assembles_congr (hLeads.assembles_bind (hBody next) ih)
      intro first last
      exact Rounds.succ_iff.symm

/-- Rounds that can each be the last. What stands behind them leads out in at most `m`
rounds; with `n` more in front it does so in at most `m + n`. -/
theorem optionalCopies_spec (greedy : Bool) (out n : Nat) : ∀ m next old,
    Extends old (optionalCopies greedy body out n next old).2 ∧
      ∀ states, Includes old (optionalCopies greedy body out n next old).2 states →
        Leads states (fun first last => ∃ k ≤ m, Rounds along k first last) next out →
          Leads states (fun first last => ∃ k ≤ m + n, Rounds along k first last)
            (optionalCopies greedy body out n next old).1 out := by
  induction n with
  | zero => exact fun m next old => ⟨Extends.refl old, fun states _ h => h⟩
  | succ n ih =>
      intro m next old
      obtain ⟨hBefore, hRound⟩ := hBody next old
      have hExtends := hBefore.trans (extends_push (body next old).2
        (Machine.choice greedy (body next old).1 out))
      obtain ⟨hMore, hRest⟩ := ih (m + 1) (body next old).2.size
        ((body next old).2.push (Machine.choice greedy (body next old).1 out))
      refine ⟨hExtends.trans hMore, fun states hStates hNext => ?_⟩
      have hPushed := hStates.before hMore
      have hBoth := hLeads.comp (hRound states (hPushed.before (extends_push _ _))) hNext
      have hEnd := hLeads.choice (hPushed.after hBefore).getElem?_size hBoth
        (hLeads.refl states out)
      rw [← Nat.add_assoc, Nat.add_right_comm]
      apply hRest states (hStates.after hExtends)
      exact congr hEnd fun first last => Rounds.exists_le_succ_iff.symm

theorem assembles_optionalCopies (greedy : Bool) (next n : Nat) :
    Assembles Leads (fun first last => ∃ k ≤ n, Rounds along k first last) next
      (optionalCopies greedy body next n next) := by
  intro old
  obtain ⟨hExtends, hRest⟩ := hLeads.optionalCopies_spec hBody greedy next n 0 next old
  refine ⟨hExtends, fun states hStates => ?_⟩
  rw [Nat.zero_add] at hRest
  apply hRest states hStates
  apply congr (hLeads.refl states next)
  intro first last
  simp [Rounds]

/-- A body and a state that leads back to it or on. -/
theorem loop_spec (greedy : Bool) (next : Nat) (old : Array MachineState) :
    Extends old (Machine.loop greedy body next old).2 ∧
      ∀ states, Includes old (Machine.loop greedy body next old).2 states →
        Leads states (fun first last => ∃ n, Rounds along (n + 1) first last)
            (Machine.loop greedy body next old).1.1 next ∧
          Leads states (fun first last => ∃ n, Rounds along n first last)
            (Machine.loop greedy body next old).1.2 next := by
  obtain ⟨hExtends, hBuilt⟩ := hBody old.size (old.push .done)
  obtain ⟨hLoop, hAll⟩ := loop_states greedy next hExtends
  refine ⟨hLoop, fun states hStates => ?_⟩
  obtain ⟨hBack, hIncludes⟩ := hAll states hStates
  have hRound := hBuilt states hIncludes
  have hStar := hLeads.loop hBack hRound
  refine ⟨congr (hLeads.comp hRound hStar) fun first last => ?_, hStar⟩
  exact Rounds.exists_succ_iff.symm

theorem assembles_anyCopies (greedy needed : Bool) (next : Nat) :
    Assembles Leads (fun first last => ∃ n, Rounds along n first last) next
      (anyCopies greedy needed body next) := by
  intro old
  obtain ⟨hExtends, hBuilt⟩ := hLeads.loop_spec hBody greedy next old
  cases needed with
  | true => exact ⟨hExtends, fun states hStates => (hBuilt states hStates).2⟩
  | false =>
      have hPush := extends_push (Machine.loop greedy body next old).2
        (Machine.choice greedy (Machine.loop greedy body next old).1.1 next)
      refine ⟨hExtends.trans hPush, fun states hStates => ?_⟩
      obtain ⟨hRound, -⟩ := hBuilt states (hStates.before hPush)
      have hEnter := hLeads.choice (hStates.after hExtends).getElem?_size hRound
        (hLeads.refl states next)
      exact congr hEnter fun first last => Rounds.exists_iff.symm

/-- Once round and then any number of times. -/
theorem assembles_loop (greedy : Bool) (next : Nat) :
    Assembles Leads (fun first last => ∃ n, Rounds along (n + 1) first last) next
      (do return (← Machine.loop greedy body next).1) := by
  intro old
  obtain ⟨hExtends, hBuilt⟩ := hLeads.loop_spec hBody greedy next old
  exact ⟨hExtends, fun states hStates => (hBuilt states hStates).1⟩

theorem assembles_repetition (least : Nat) (most : Option Nat) (greedy needed : Bool)
    (next : Nat) :
    Assembles Leads (fun first last => ∃ n, least ≤ n ∧
        (∀ bound, most = some bound → n ≤ max least bound) ∧ Rounds along n first last) next
      (repetition least most greedy needed body next) := by
  cases most with
  | some most =>
      apply assembles_congr (hLeads.assembles_bind
        (hLeads.assembles_optionalCopies hBody greedy next (most - least))
        (hLeads.assembles_copies hBody least))
      intro first last
      constructor
      · rintro ⟨middle, hFirst, k, hk, hRest⟩
        exact ⟨least + k, by omega, by rintro _ ⟨⟩; omega, hFirst.append hRest⟩
      · rintro ⟨n, hLeast, hMost, hRounds⟩
        have hBound := hMost most rfl
        obtain ⟨k, rfl⟩ := Nat.exists_eq_add_of_le hLeast
        obtain ⟨middle, hBefore, hBehind⟩ := Rounds.add_iff.1 hRounds
        exact ⟨middle, hBefore, k, by omega, hBehind⟩
  | none =>
      cases least with
      | zero =>
          apply assembles_congr (hLeads.assembles_anyCopies hBody greedy needed next)
          intro first last
          simp
      | succ least =>
          apply assembles_congr (hLeads.assembles_bind (hLeads.assembles_loop hBody greedy next)
            (hLeads.assembles_copies hBody least))
          intro first last
          constructor
          · rintro ⟨middle, hFirst, n, hRest⟩
            exact ⟨least + (n + 1), by omega, by simp, hFirst.append hRest⟩
          · rintro ⟨n, hLeast, -, hRounds⟩
            obtain ⟨k, rfl⟩ : ∃ k, n = least + (k + 1) := ⟨n - (least + 1), by omega⟩
            obtain ⟨middle, hBefore, hBehind⟩ := Rounds.add_iff.1 hRounds
            exact ⟨middle, hBefore, k, hBehind⟩

end

/-! ## The machine of a pattern -/

/-- A named group is opened, spanned by its body and closed. -/
theorem assembles_named (name : String) {body : Pattern}
    (hBody : ∀ next, Assembles Leads body.Spans next (build body next)) (number next : Nat) :
    Assembles Leads (Pattern.Spans (.group number (some name) body)) next
      (build (.group number (some name) body) next) := by
  have hClosing : Assembles Leads (fun first last => last = first.closeAt name) next
      (add (.closing name next)) := hLeads.assembles_add (by simp) fun _ _ _ => Iff.rfl
  have hOpening : ∀ target, Assembles Leads (fun first last => last = first.openAt name) target
      (add (.opening name target)) :=
    fun target => hLeads.assembles_add (by simp) fun _ _ _ => Iff.rfl
  apply assembles_congr (hLeads.assembles_bind hClosing
    fun middle => hLeads.assembles_bind (hBody middle) hOpening)
  intro first last
  constructor
  · rintro ⟨inner, ⟨opened, rfl, hInner⟩, rfl⟩
    exact ⟨inner, hInner, rfl⟩
  · rintro ⟨inner, hInner, rfl⟩
    exact ⟨inner, ⟨_, rfl, hInner⟩, rfl⟩

theorem assembles_either {left right : Pattern}
    (hLeft : ∀ next, Assembles Leads left.Spans next (build left next))
    (hRight : ∀ next, Assembles Leads right.Spans next (build right next)) (next : Nat) :
    Assembles Leads (Pattern.Spans (.either left right)) next
      (build (.either left right) next) := by
  intro old
  obtain ⟨hExtends, hPreferred⟩ := hLeft next old
  obtain ⟨hMore, hOther⟩ := hRight next (build left next old).2
  have hPush := extends_push (build right next (build left next old).2).2
    (.fork (build left next old).1 (build right next (build left next old).2).1)
  refine ⟨(hExtends.trans hMore).trans hPush, fun states hStates => ?_⟩
  have hBuilt := hStates.before hPush
  exact hLeads.fork (hStates.after (hExtends.trans hMore)).getElem?_size
    (hPreferred states (hBuilt.before hMore)) (hOther states (hBuilt.after hExtends))

/-- The states of a pattern stand for its spans. -/
theorem assembles_build (pattern : Pattern) :
    ∀ next, Assembles Leads pattern.Spans next (build pattern next) := by
  induction pattern with
  | empty => exact hLeads.assembles_pure
  | literal text => exact fun next => hLeads.assembles_readAll next text
  | one set => exact fun next => hLeads.assembles_add (by simp) fun _ _ _ => Iff.rfl
  | boundary condition => exact fun next => hLeads.assembles_add (by simp) fun _ _ _ => Iff.rfl
  | group number name body ih =>
      cases name with
      | none => exact ih
      | some name => exact hLeads.assembles_named name ih number
  | seq left right ihLeft ihRight => exact fun next => hLeads.assembles_bind (ihRight next) ihLeft
  | either left right ihLeft ihRight => exact hLeads.assembles_either ihLeft ihRight
  | repeated least most greedy body ih =>
      exact fun next => hLeads.assembles_repetition ih least most greedy _ next

end Compositional

end Machine

end CratePlan
