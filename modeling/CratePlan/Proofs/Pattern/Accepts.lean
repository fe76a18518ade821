import CratePlan.Proofs.Pattern.Assembly

/-!
# What machines accept

What is proved of the states of a pattern is a statement on all that the machine accepts from
where the pattern begins. It goes along a span of the pattern and on from the state behind it, in
no more steps than it took altogether. `Through` says this of any part of a machine, and parts are
put together as the relations are that they stand for.

The number of steps is needed for repetitions. These lead back to a state where the
machine has been before, and only the shorter rest of the way tells the two visits apart.

## Main statements

* `through_loop`: a state that leads back to a body, or on.
* `compositional_through`: so the states of a pattern lead along its spans.
* `spans_of_accepts`: all that the machine of a pattern accepts is spanned by it.
-/

namespace CratePlan

namespace Machine

/-- In so many steps the machine comes from a state at a spot to its end. -/
inductive Accepts (states : Array MachineState) : Nat → Nat → Spot → Spot → Prop where
  | done {number : Nat} {spot : Spot} (hState : states[number]? = some .done) :
      Accepts states 0 number spot spot
  | step {n number next : Nat} {state : MachineState} {first middle last : Spot}
      (hState : states[number]? = some state) (hGoes : state.Goes first next middle)
      (hRest : Accepts states n next middle last) : Accepts states (n + 1) number first last

/-- All that a machine accepts from one state goes along a relation and on from another
state. -/
def Through (states : Array MachineState) (along : Spot → Spot → Prop) (entry next : Nat) : Prop :=
  ∀ n first last, Accepts states n entry first last →
    ∃ m ≤ n, ∃ middle, along first middle ∧ Accepts states m next middle last

section

variable {states : Array MachineState} {along further : Spot → Spot → Prop} {entry next : Nat}

/-- The first step from a state that is not the end. -/
theorem Accepts.exists_goes {number n : Nat} {state : MachineState} {first last : Spot}
    (h : Accepts states n number first last) (hState : states[number]? = some state)
    (hDone : state ≠ .done) :
    ∃ m < n, ∃ next middle, state.Goes first next middle ∧ Accepts states m next middle last := by
  cases h with
  | done hEnd =>
      rw [hState, Option.some.injEq] at hEnd
      exact absurd hEnd hDone
  | @step n _ next _ _ middle _ hFound hGoes hRest =>
      rw [hState, Option.some.injEq] at hFound
      subst hFound
      exact ⟨n, Nat.lt_succ_self n, next, middle, hGoes, hRest⟩

theorem Through.refl (states : Array MachineState) (state : Nat) : Through states Eq state state :=
  fun n first _ h => ⟨n, Nat.le_refl n, first, rfl, h⟩

theorem Through.comp {middle : Nat} (h : Through states along entry middle)
    (hFurther : Through states further middle next) :
    Through states (Relation.Comp along further) entry next := by
  intro n first last hAccepts
  obtain ⟨m, hm, spot, hAlong, hRest⟩ := h n first last hAccepts
  obtain ⟨less, hLess, other, hFurtherAlong, hLast⟩ := hFurther m spot last hRest
  exact ⟨less, Nat.le_trans hLess hm, other, ⟨spot, hAlong, hFurtherAlong⟩, hLast⟩

theorem Through.mono (h : Through states along entry next)
    (hMono : ∀ first last, along first last → further first last) :
    Through states further entry next := by
  intro n first last hAccepts
  obtain ⟨m, hm, middle, hAlong, hRest⟩ := h n first last hAccepts
  exact ⟨m, hm, middle, hMono first middle hAlong, hRest⟩

/-- A state with one way on. -/
theorem through_of_goes {state : MachineState} (hState : states[entry]? = some state)
    (hDone : state ≠ .done)
    (hGoes : ∀ first target last, state.Goes first target last → target = next ∧ along first last) :
    Through states along entry next := by
  intro n first last h
  obtain ⟨m, hm, target, middle, hStep, hRest⟩ := h.exists_goes hState hDone
  obtain ⟨rfl, hAlong⟩ := hGoes first target middle hStep
  exact ⟨m, Nat.le_of_lt hm, middle, hAlong, hRest⟩

/-- A state with two ways on. -/
theorem through_fork {preferred other : Nat}
    (hState : states[entry]? = some (.fork preferred other))
    (hPreferred : Through states along preferred next)
    (hOther : Through states along other next) : Through states along entry next := by
  intro n first last h
  obtain ⟨m, hm, target, middle, ⟨hTarget, rfl⟩, hRest⟩ := h.exists_goes hState (by simp)
  rcases hTarget with rfl | rfl
  · obtain ⟨less, hLess, spot, hAlong, hLast⟩ := hPreferred m first last hRest
    exact ⟨less, by omega, spot, hAlong, hLast⟩
  · obtain ⟨less, hLess, spot, hAlong, hLast⟩ := hOther m first last hRest
    exact ⟨less, by omega, spot, hAlong, hLast⟩

/-- A state that leads back to a body or on: a way from it goes through the body some
number of times. The induction is on the length of the way, since each round shortens it. -/
theorem through_loop {greedy : Bool} {back round : Nat}
    (hState : states[back]? = some (choice greedy round next))
    (hRound : Through states along round back) :
    Through states (fun first last => ∃ n, Rounds along n first last) back next := by
  intro n
  induction n using Nat.strongRecOn with
  | ind n ih =>
      intro first last h
      have hGoes :
          ∃ m < n, Accepts states m round first last ∨ Accepts states m next first last := by
        rcases choice_cases hState with hFork | hFork
        all_goals
          obtain ⟨m, hm, target, middle, ⟨hTarget, rfl⟩, hRest⟩ := h.exists_goes hFork (by simp)
          rcases hTarget with rfl | rfl
        · exact ⟨m, hm, .inl hRest⟩
        · exact ⟨m, hm, .inr hRest⟩
        · exact ⟨m, hm, .inr hRest⟩
        · exact ⟨m, hm, .inl hRest⟩
      obtain ⟨m, hm, hOn | hOut⟩ := hGoes
      · obtain ⟨less, hLess, middle, hAlong, hBack⟩ := hRound m first last hOn
        obtain ⟨rest, hRest, spot, ⟨k, hRounds⟩, hLast⟩ := ih less (by omega) middle last hBack
        exact ⟨rest, by omega, spot, ⟨k + 1, middle, hAlong, hRounds⟩, hLast⟩
      · exact ⟨m, Nat.le_of_lt hm, first, ⟨0, rfl⟩, hOut⟩

end

/-! ## The machine of a pattern -/

/-- Parts of a machine are put together as what they lead along. -/
theorem compositional_through : Compositional Through where
  refl := Through.refl
  comp := Through.comp
  step hState hDone hGoes :=
    through_of_goes hState hDone fun first target last => (hGoes first target last).1
  fork hState hPreferred hOther :=
    through_fork hState (hPreferred.mono fun _ _ => .inl) (hOther.mono fun _ _ => .inr)
  loop := through_loop

/-- All that the machine of a pattern accepts is spanned by the pattern. -/
theorem spans_of_accepts {pattern : Pattern} {n : Nat} {first last : Spot}
    (h : Accepts (ofPattern pattern).states n (ofPattern pattern).start first last) :
    pattern.Spans first last := by
  obtain ⟨hExtends, hThrough⟩ := compositional_through.assembles_build pattern 0 #[.done]
  have hEnd : (ofPattern pattern).states[0]? = some .done := hExtends.getElem?_eq 0 (by simp)
  obtain ⟨m, -, middle, hSpans, hRest⟩ :=
    hThrough (ofPattern pattern).states (fun i _ _ => rfl) n first last h
  cases hRest with
  | done => exact hSpans
  | step hState hGoes =>
      rw [hEnd, Option.some.injEq] at hState
      subst hState
      exact hGoes.elim

end Machine

end CratePlan
