import CratePlan.Proofs.Pattern.Accepts

/-!
# Ways through machines

Every span of a pattern is a way through its machine. This is the other half of what is said of
machines in `CratePlan.Proofs.Pattern.Accepts`: there nothing else is a way, here nothing is
left out. Neither half knows which ways are preferred.

A part of a machine `Covers` a relation when it takes every spot to those that are related to
it: what is accepted behind the part is accepted in front of it. Numbers of steps do not matter
here, since a way is gone as often round as the span says.

## Main statements

* `covers_loop`: a state that leads back to a body, or on.
* `compositional_covers`: so the states of a pattern cover its spans.
* `accepts_of_spans`: all that a pattern spans is accepted by its machine.
-/

namespace CratePlan

namespace Machine

/-- Where a spot is related to another one and the machine accepts from the state `next` there,
it accepts from the state `entry` at the first. -/
def Covers (states : Array MachineState) (along : Spot → Spot → Prop) (entry next : Nat) : Prop :=
  ∀ first middle last, along first middle → (∃ n, Accepts states n next middle last) →
    ∃ n, Accepts states n entry first last

section

variable {states : Array MachineState} {along further : Spot → Spot → Prop} {entry next : Nat}

theorem Covers.refl (states : Array MachineState) (state : Nat) : Covers states Eq state state := by
  rintro first _ last rfl h
  exact h

theorem Covers.comp {middle : Nat} (h : Covers states along entry middle)
    (hFurther : Covers states further middle next) :
    Covers states (Relation.Comp along further) entry next := by
  rintro first spot last ⟨between, hAlong, hFurtherAlong⟩ hAccepts
  exact h first between last hAlong (hFurther between spot last hFurtherAlong hAccepts)

/-- A state that leads on wherever the relation does. -/
theorem covers_of_goes {state : MachineState} (hState : states[entry]? = some state)
    (hGoes : ∀ first last, along first last → state.Goes first next last) :
    Covers states along entry next := by
  rintro first middle last hAlong ⟨n, hAccepts⟩
  exact ⟨n + 1, .step hState (hGoes first middle hAlong) hAccepts⟩

/-- A state with two ways on, of which one is gone. -/
theorem covers_fork {preferred other target : Nat}
    (hState : states[entry]? = some (.fork preferred other))
    (hTarget : target = preferred ∨ target = other) (h : Covers states along target next) :
    Covers states along entry next := by
  intro first middle last hAlong hAccepts
  obtain ⟨n, hTaken⟩ := h first middle last hAlong hAccepts
  exact ⟨n + 1, .step hState ⟨hTarget, rfl⟩ hTaken⟩

theorem covers_choice {greedy : Bool} {round out target : Nat}
    (hState : states[entry]? = some (choice greedy round out))
    (hTarget : target = round ∨ target = out) (h : Covers states along target next) :
    Covers states along entry next := by
  rcases choice_cases hState with hFork | hFork
  · exact covers_fork hFork hTarget h
  · exact covers_fork hFork hTarget.symm h

/-- A state that leads back to a body or on: the body is gone through any number of times. -/
theorem covers_loop {greedy : Bool} {back round : Nat}
    (hState : states[back]? = some (choice greedy round next))
    (hRound : Covers states along round back) :
    Covers states (fun first last => ∃ n, Rounds along n first last) back next := by
  rintro first middle last ⟨n, hRounds⟩ hAccepts
  induction n generalizing first with
  | zero =>
      obtain rfl : first = middle := hRounds
      exact covers_choice hState (.inr rfl) (.refl states next) first first last rfl hAccepts
  | succ n ih =>
      obtain ⟨spot, hAlong, hRest⟩ := hRounds
      have hBack := ih spot hRest
      exact covers_choice hState (.inl rfl) hRound first spot last hAlong hBack

end

/-! ## The machine of a pattern -/

/-- Parts of a machine are put together as what they cover. -/
theorem compositional_covers : Compositional Covers where
  refl := Covers.refl
  comp := Covers.comp
  step hState _ hGoes :=
    covers_of_goes hState fun first last hAlong => (hGoes first _ last).2 ⟨rfl, hAlong⟩
  fork hState hPreferred hOther := by
    rintro first middle last (hAlong | hFurther)
    · exact covers_fork hState (.inl rfl) hPreferred first middle last hAlong
    · exact covers_fork hState (.inr rfl) hOther first middle last hFurther
  loop := covers_loop

/-- All that a pattern spans is accepted by its machine. -/
theorem accepts_of_spans {pattern : Pattern} {first last : Spot} (h : pattern.Spans first last) :
    ∃ n, Accepts (ofPattern pattern).states n (ofPattern pattern).start first last := by
  obtain ⟨hExtends, hCovers⟩ := compositional_covers.assembles_build pattern 0 #[.done]
  have hEnd : (ofPattern pattern).states[0]? = some .done := hExtends.getElem?_eq 0 (by simp)
  exact hCovers (ofPattern pattern).states (fun i _ _ => rfl) first last last h ⟨0, .done hEnd⟩

end Machine

end CratePlan
