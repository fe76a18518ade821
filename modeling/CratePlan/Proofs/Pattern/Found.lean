import CratePlan.Proofs.Pattern.Search
import CratePlan.Proofs.Pattern.Ways
import Mathlib.Data.List.TakeWhile

/-!
# That a search finds

A search drops threads: those that come to a state which another one has entered at the same
place, and those behind a match. Nothing that the machine could still accept is lost with the
first, because what it accepts from a state depends on the place alone and not on what the
groups hold. And the others are dropped only when there is a match.

So it is enough to know that the states that have been entered at a place are closed under
going on without reading (`Front.Closed`). Then a way to the end leads through a thread that
waits, either at the end itself or to read the next character, and in the second case the state
behind it is entered at the next place. Threads go on in so many steps as there are threads and
twice as many states that have not been entered, since each of those leads to two others at
most; this is never more than they are given.

## Main statements

* `enter_open`: what becomes of a thread in a state that has not been entered.
* `closes_enter`: threads go on until the front is closed.
* `waits_of_accepts`: a way to the end leads through a thread that waits.
* `Pattern.exists_search_iff`: there is a match exactly if the pattern spans some of the text.
-/

namespace CratePlan

/-- At a place, the state leads to the state `next` without reading. -/
def MachineState.Passes : MachineState → Place → Nat → Prop
  | fork preferred other, _, next => next = preferred ∨ next = other
  | check condition target, place, next =>
    condition.holds place.before place.after = true ∧ next = target
  | opening _ target, _, next => next = target
  | closing _ target, _, next => next = target
  | read _ _, _, _ => False
  | done, _, _ => False

/-- A thread in this state goes on no further at its place. -/
def MachineState.Waits : MachineState → Prop
  | read _ _ => True
  | done => True
  | _ => False

/-- A state leads on at its place, or it reads. -/
theorem MachineState.Goes.cases {state : MachineState} {next : Nat} {first last : Spot}
    (h : state.Goes first next last) :
    (state.Passes first.place next ∧ ∃ held, last = { first with held }) ∨
      ∃ set c rest, state = .read set next ∧ set.holds c = true ∧ first.after = c :: rest ∧
        last = ⟨c :: first.before, rest, first.held⟩ := by
  cases state with
  | fork preferred other =>
      obtain ⟨hNext, rfl⟩ := h
      exact .inl ⟨hNext, first.held, rfl⟩
  | read set target =>
      obtain ⟨rfl, c, hChar, hReads⟩ := h
      refine .inr ⟨set, c, last.after, rfl, hChar, hReads.after, ?_⟩
      rw [← hReads.held, ← List.singleton_append, ← List.reverse_singleton, ← hReads.before]
  | check condition target =>
      obtain ⟨rfl, hHolds, rfl⟩ := h
      exact .inl ⟨⟨hHolds, rfl⟩, first.held, rfl⟩
  | opening name target =>
      obtain ⟨rfl, rfl⟩ := h
      exact .inl ⟨rfl, _, rfl⟩
  | closing name target =>
      obtain ⟨rfl, rfl⟩ := h
      exact .inl ⟨rfl, _, rfl⟩
  | done => exact h.elim

namespace Front

/-- A thread has been in the state. Numbers of no state count as well: nothing starts there. -/
def Entered (front : Front) (number : Nat) : Prop :=
  front.seen.getD number true = true

/-- How many states have not been entered. -/
def unseen (front : Front) : Nat := front.seen.countP (!·)

theorem entered_close {front : Front} {number other : Nat} {waiting : List Thread} :
    Entered ⟨front.seen.setIfInBounds number true, waiting⟩ other ↔
      other = number ∨ front.Entered other := by
  simp only [Entered, Array.getD_eq_getD_getElem?, Array.getElem?_setIfInBounds]
  grind

theorem unseen_close {front : Front} {number : Nat} (h : ¬front.Entered number)
    (waiting : List Thread) :
    unseen ⟨front.seen.setIfInBounds number true, waiting⟩ + 1 = front.unseen := by
  obtain ⟨hSize, hFalse⟩ : ∃ hSize : number < front.seen.size, front.seen[number] = false := by
    simp only [Entered, Array.getD_eq_getD_getElem?] at h
    grind
  have hLength : number < front.seen.toList.length := by simpa using hSize
  have hPos : 0 < front.seen.countP (!·) :=
    Array.countP_pos_iff.2 ⟨front.seen[number], Array.getElem_mem hSize, by simp [hFalse]⟩
  simp only [unseen, ← Array.countP_toList, Array.toList_setIfInBounds] at hPos ⊢
  rw [List.countP_set hLength]
  simp only [Array.getElem_toList, hFalse, Bool.not_false, Bool.not_true, if_true,
    Bool.false_eq_true, if_false]
  omega

/-- Where a state has been entered, so is every state that it leads to without reading, or a
thread is still to go there; and a state that waits has a thread. -/
structure Closes (machine : Machine) (place : Place) (threads : List Thread) (front : Front) :
    Prop where
  size : front.seen.size = machine.states.size
  passed : ∀ number state next, front.Entered number → machine.states[number]? = some state →
    state.Passes place next → front.Entered next ∨ next ∈ threads.map Thread.state
  waits : ∀ number state, front.Entered number → machine.states[number]? = some state →
    state.Waits → number ∈ front.waiting.map Thread.state

/-- No thread is still to go anywhere. -/
abbrev Closed (machine : Machine) (place : Place) (front : Front) : Prop :=
  Closes machine place [] front

section

variable {machine : Machine} {place : Place} {thread : Thread} {others : List Thread}
  {front : Front}

/-- Dropping a thread in a state that has been entered loses nothing. -/
theorem Closes.tail (h : front.Closes machine place (thread :: others))
    (hEntered : front.Entered thread.state) : front.Closes machine place others := by
  refine { h with passed := fun number state next hNumber hState hPasses => ?_ }
  rcases h.passed number state next hNumber hState hPasses with hNext | hNext
  · exact .inl hNext
  · rw [List.map_cons, List.mem_cons] at hNext
    rcases hNext with rfl | hNext
    · exact .inl hEntered
    · exact .inr hNext

/-- A state can be entered if the threads that go on from it are added. -/
theorem Closes.enter {passed waiting : List Thread}
    (h : front.Closes machine place (thread :: others)) (hWaiting : front.waiting ⊆ waiting)
    (hState : ∀ state, machine.states[thread.state]? = some state →
      (∀ next, state.Passes place next → next ∈ passed.map Thread.state) ∧
        (state.Waits → thread ∈ waiting)) :
    Closes machine place (passed ++ others)
      ⟨front.seen.setIfInBounds thread.state true, waiting⟩ where
  size := by simpa using h.size
  passed number state next hNumber hFound hPasses := by
    rw [entered_close, List.map_append, List.mem_append]
    rcases entered_close.1 hNumber with rfl | hNumber
    · exact .inr (.inl ((hState state hFound).1 next hPasses))
    · rcases h.passed number state next hNumber hFound hPasses with hNext | hNext
      · exact .inl (.inr hNext)
      · rw [List.map_cons, List.mem_cons] at hNext
        rcases hNext with hThread | hNext
        · exact .inl (.inl hThread)
        · exact .inr (.inr hNext)
  waits number state hNumber hFound hWaits := by
    rcases entered_close.1 hNumber with rfl | hNumber
    · exact List.mem_map_of_mem ((hState state hFound).2 hWaits)
    · exact List.map_subset _ hWaiting (h.waits number state hNumber hFound hWaits)

end

end Front

namespace Machine

variable {machine : Machine} {place : Place}

open Front

/-! ## Threads that go on -/

/-- A thread in a state that has been entered is dropped. -/
theorem enter_entered {n : Nat} {thread : Thread} {others : List Thread} {front : Front}
    (h : front.Entered thread.state) :
    machine.enter place (n + 1) (thread :: others) front = machine.enter place n others front := by
  rw [enter]
  exact if_pos h

/-- A thread in a state that has not been entered enters it: there is a thread in each state that
this one leads to, and if it waits then so does the thread. -/
theorem enter_open (machine : Machine) (place : Place) {thread : Thread} {front : Front}
    (h : ¬front.Entered thread.state) (n : Nat) (others : List Thread) :
    ∃ passed waiting, machine.enter place (n + 1) (thread :: others) front =
        machine.enter place n (passed ++ others)
          ⟨front.seen.setIfInBounds thread.state true, waiting⟩ ∧
      passed.length ≤ 2 ∧ front.waiting ⊆ waiting ∧
      ∀ state, machine.states[thread.state]? = some state →
        (∀ next, state.Passes place next → next ∈ passed.map Thread.state) ∧
          (state.Waits → thread ∈ waiting) := by
  have hOpen : ¬front.seen.getD thread.state true = true := h
  have hAll : front.waiting ⊆ front.waiting := List.Subset.refl front.waiting
  have hMore : front.waiting ⊆ thread :: front.waiting := List.subset_cons_self _ _
  rw [enter, if_neg hOpen]
  cases hState : machine.states[thread.state]? with
  | none => exact ⟨[], front.waiting, rfl, by simp, hAll, by simp⟩
  | some state =>
      simp only [Option.some.injEq, forall_eq']
      cases state with
      | fork preferred other =>
          exact ⟨[⟨preferred, thread.held⟩, ⟨other, thread.held⟩], front.waiting, rfl, by simp,
            hAll, by simp [MachineState.Passes], False.elim⟩
      | read set target =>
          exact ⟨[], thread :: front.waiting, rfl, by simp, hMore, fun _ h => h.elim, by simp⟩
      | check condition target =>
          by_cases hHolds : condition.holds place.before place.after = true
          · exact ⟨[⟨target, thread.held⟩], front.waiting, if_pos hHolds, by simp, hAll,
              by simp [MachineState.Passes], False.elim⟩
          · exact ⟨[], front.waiting, if_neg hHolds, by simp, hAll, fun _ h => absurd h.1 hHolds,
              False.elim⟩
      | opening name target =>
          exact ⟨[⟨target, _⟩], front.waiting, rfl, by simp, hAll, by simp [MachineState.Passes],
            False.elim⟩
      | closing name target =>
          exact ⟨[⟨target, _⟩], front.waiting, rfl, by simp, hAll, by simp [MachineState.Passes],
            False.elim⟩
      | done =>
          exact ⟨[], thread :: front.waiting, rfl, by simp, hMore, fun _ h => h.elim, by simp⟩

/-- Threads go on until the front is closed, and have then entered the states that they were in.
The number of steps covers the threads and twice the states that have not been entered. -/
theorem closes_enter (n : Nat) : ∀ {threads : List Thread} {front : Front},
    threads.length + 2 * front.unseen ≤ n → front.Closes machine place threads →
      (machine.enter place n threads front).Closed machine place ∧
        ∀ thread ∈ threads, (machine.enter place n threads front).Entered thread.state := by
  induction n with
  | zero =>
      intro threads front hSteps hFront
      obtain rfl : threads = [] := List.length_eq_zero_iff.1 (by omega)
      exact ⟨hFront, by simp⟩
  | succ n ih =>
      intro threads front hSteps hFront
      cases threads with
      | nil => exact ⟨hFront, by simp⟩
      | cons thread others =>
          rw [List.length_cons] at hSteps
          by_cases hEntered : front.Entered thread.state
          · -- There is one thread less.
            rw [enter_entered hEntered]
            obtain ⟨hClosed, hAll⟩ := ih (by omega) (hFront.tail hEntered)
            have hThread := enter_seen machine place thread.state n others front hEntered
            exact ⟨hClosed, List.forall_mem_cons.2 ⟨hThread, hAll⟩⟩
          · -- One more state has been entered, which counts for two threads.
            obtain ⟨passed, waiting, hEnter, hLength, hWaiting, hPassed⟩ :=
              enter_open machine place hEntered n others
            have hUnseen := unseen_close hEntered waiting
            have hNext := hFront.enter hWaiting hPassed
            rw [hEnter]
            obtain ⟨hClosed, hAll⟩ := ih (by rw [List.length_append]; omega) hNext
            have hSelf : Entered ⟨front.seen.setIfInBounds thread.state true, waiting⟩
                thread.state := entered_close.2 (.inl rfl)
            have hThread := enter_seen machine place thread.state n (passed ++ others) _ hSelf
            exact ⟨hClosed, List.forall_mem_cons.2
              ⟨hThread, fun other hOther => hAll other (List.mem_append_right _ hOther)⟩⟩

/-- A thread that is added enters its state, and the front is closed again. -/
theorem closed_addThread {front : Front} (h : front.Closed machine place) (thread : Thread) :
    (machine.addThread place front thread).Closed machine place ∧
      (machine.addThread place front thread).Entered thread.state := by
  have hUnseen : front.unseen ≤ machine.states.size := h.size ▸ Array.countP_le_size
  have hFront : front.Closes machine place [thread] :=
    { h with passed := fun number state next hNumber hState hPasses =>
        (h.passed number state next hNumber hState hPasses).imp_right (by simp) }
  obtain ⟨hClosed, hAll⟩ := closes_enter (2 * machine.states.size + 2)
    (by rw [List.length_singleton]; omega) hFront
  exact ⟨hClosed, hAll thread (List.mem_singleton.2 rfl)⟩

theorem entered_addThread {front : Front} {number : Nat} (h : front.Entered number)
    (thread : Thread) : (machine.addThread place front thread).Entered number :=
  enter_seen machine place number _ _ _ h

/-- Without threads no state is entered. -/
theorem closed_emptyFront (machine : Machine) (place : Place) :
    machine.emptyFront.Closed machine place := by
  have hNone : ∀ number state, machine.emptyFront.Entered number →
      machine.states[number]? ≠ some state := by
    intro number state hEntered hState
    have hSize : number < machine.states.size := (Array.getElem?_eq_some_iff.1 hState).1
    simp [Entered, emptyFront, Array.getD_eq_getD_getElem?, hSize] at hEntered
  refine ⟨by simp [emptyFront], fun number state next hEntered hState => ?_,
    fun number state hEntered hState => ?_⟩
  · exact absurd hState (hNone number state hEntered)
  · exact absurd hState (hNone number state hEntered)

/-! ## Ways to the end -/

/-- A way to the end leads through a thread that waits: at the end, or to read a character, and
then the way goes on behind it. What groups hold makes no difference to where it leads. -/
theorem waits_of_accepts {n : Nat} : ∀ (first : Spot) {front : Front} {number : Nat} {last : Spot},
    front.Closed machine first.place → front.Entered number →
      Accepts machine.states n number first last →
        (∃ thread ∈ front.waiting, machine.isDone thread = true) ∨
        ∃ thread ∈ front.waiting, ∃ set next c rest held m,
          machine.states[thread.state]? = some (.read set next) ∧ set.holds c = true ∧
            first.after = c :: rest ∧
              Accepts machine.states m next ⟨c :: first.before, rest, held⟩ last := by
  induction n with
  | zero =>
      intro first front number last hFront hNumber hAccepts
      cases hAccepts with
      | done hState =>
          obtain ⟨thread, hThread, rfl⟩ :=
            List.mem_map.1 (hFront.waits number .done hNumber hState trivial)
          exact .inl ⟨thread, hThread, by simp [isDone, hState]⟩
  | succ n ih =>
      intro first front number last hFront hNumber hAccepts
      cases hAccepts with
      | step hState hGoes hRest =>
          rcases hGoes.cases with ⟨hPasses, held, rfl⟩ | ⟨set, c, rest, rfl, hChar, hAfter, rfl⟩
          · have hNext : front.Entered _ :=
              (hFront.passed number _ _ hNumber hState hPasses).resolve_right (by simp)
            exact ih { first with held } hFront hNext hRest
          · obtain ⟨thread, hThread, rfl⟩ :=
              List.mem_map.1 (hFront.waits number _ hNumber hState trivial)
            exact .inr ⟨thread, hThread, set, _, c, rest, first.held, n, hState, hChar, hAfter,
              hRest⟩

/-! ## The search -/

/-- A thread that reads a character enters the state behind it. -/
theorem closed_readChar {front : Front} {c : Char} (h : front.Closed machine place)
    (thread : Thread) : (machine.readChar place c front thread).Closed machine place := by
  unfold readChar
  split
  case h_1 =>
      split
      case isTrue => exact (closed_addThread h _).1
      case isFalse => exact h
  case h_2 => exact h

theorem entered_readChar {front : Front} {number : Nat} (h : front.Entered number) (c : Char)
    (thread : Thread) : (machine.readChar place c front thread).Entered number := by
  unfold readChar
  split
  case h_1 =>
      split
      case isTrue => exact entered_addThread h _
      case isFalse => exact h
  case h_2 => exact h

/-- Threads that read a character, one after the other. -/
theorem closed_readAll {c : Char} (threads : List Thread) : ∀ {front : Front},
    front.Closed machine place →
      (threads.foldl (machine.readChar place c) front).Closed machine place ∧
        (∀ number, front.Entered number →
          (threads.foldl (machine.readChar place c) front).Entered number) ∧
        ∀ thread ∈ threads, ∀ set next, machine.states[thread.state]? = some (.read set next) →
          set.holds c = true →
            (threads.foldl (machine.readChar place c) front).Entered next := by
  induction threads with
  | nil => exact fun h => ⟨h, fun _ hNumber => hNumber, by simp⟩
  | cons thread others ih =>
      intro front h
      obtain ⟨hClosed, hKept, hOthers⟩ := ih (closed_readChar (c := c) h thread)
      refine ⟨hClosed, fun number hNumber => hKept number (entered_readChar hNumber c thread),
        List.forall_mem_cons.2 ⟨fun set next hState hChar => hKept next ?_, hOthers⟩⟩
      simp only [readChar, hState, hChar, if_true]
      exact (closed_addThread h _).2

/-- Without a match no thread is dropped. -/
theorem settle_eq_of_none {threads : List Thread} (h : (machine.settle threads).2 = none) :
    (machine.settle threads).1 = threads := by
  have hNone := List.find?_eq_none.1 (Option.map_eq_none_iff.1 h)
  exact List.takeWhile_eq_self_iff.2 fun thread hThread => by simpa using hNone thread hThread

theorem isSome_settle_of_mem {threads : List Thread} {thread : Thread} (hThread : thread ∈ threads)
    (hDone : machine.isDone thread = true) : (machine.settle threads).2.isSome = true := by
  rw [settle, Option.isSome_map, List.find?_isSome]
  exact ⟨thread, hThread, hDone⟩

theorem isSome_orElse (latest found : Option Held) :
    (latest <|> found).isSome = (latest.isSome || found.isSome) := by
  simp

/-- What has been found is not lost. -/
theorem isSome_run_of_found (rest : List Char) : ∀ {number : Nat} {front : Front}
    {found : Option Held}, found.isSome = true →
      (machine.run number front found rest).isSome = true := by
  induction rest with
  | nil =>
      intro number front found h
      rw [run, isSome_orElse, h, Bool.or_true]
  | cons c rest ih =>
      intro number front found h
      exact ih (by rw [isSome_orElse, h, Bool.or_true])

/-- The machine accepts something from a state that has been entered, or from its start further
on in the text. -/
def Awaits (machine : Machine) (front : Front) (before rest : List Char) : Prop :=
  (∃ number n held last, front.Entered number ∧
    Accepts machine.states n number ⟨before, rest, held⟩ last) ∨
  ∃ c passed behind n last, rest = c :: (passed ++ behind) ∧
    Accepts machine.states n machine.start ⟨passed.reverse ++ c :: before, behind, .nothing⟩ last

/-- Reading a character without a match loses nothing that the machine accepts. -/
theorem Awaits.read {before rest : List Char} {c : Char} {front : Front}
    (h : Awaits machine front before (c :: rest))
    (hFront : front.Closed machine ⟨before.length, before.head?, some c⟩)
    (hNone : ∀ thread ∈ front.waiting, machine.isDone thread = false) {next : Front}
    (hRead : ∀ thread ∈ front.waiting, ∀ set target,
      machine.states[thread.state]? = some (.read set target) → set.holds c = true →
        next.Entered target)
    (hStart : next.Entered machine.start) : Awaits machine next (c :: before) rest := by
  rcases h with ⟨number, n, held, last, hNumber, hAccepts⟩ |
    ⟨d, passed, behind, n, last, hText, hAccepts⟩
  · obtain ⟨thread, hThread, hDone⟩ | ⟨thread, hThread, set, target, d, more, other, m, hState,
      hChar, hAfter, hRest⟩ := waits_of_accepts _ hFront hNumber hAccepts
    · rw [hNone thread hThread] at hDone
      cases hDone
    · obtain ⟨rfl, rfl⟩ := List.cons.inj hAfter
      exact .inl ⟨target, m, other, last, hRead thread hThread set target hState hChar, hRest⟩
  · obtain ⟨rfl, rfl⟩ := List.cons.inj hText
    cases passed with
    | nil => exact .inl ⟨machine.start, n, .nothing, last, hStart, hAccepts⟩
    | cons d passed =>
        refine .inr ⟨d, passed, behind, n, last, rfl, ?_⟩
        rw [List.reverse_cons, List.append_assoc] at hAccepts
        exact hAccepts

/-- What the machine accepts from here on is found, if not something else before it. -/
theorem isSome_run_of_awaits (rest : List Char) : ∀ (before : List Char) {front : Front}
    {found : Option Held}, front.Closed machine ⟨before.length, before.head?, rest.head?⟩ →
      Awaits machine front before rest →
        (machine.run before.length front found rest).isSome = true := by
  induction rest with
  | nil =>
      rintro before front found hFront (⟨number, n, held, last, hNumber, hAccepts⟩ | hLater)
      · obtain ⟨thread, hThread, hDone⟩ | ⟨_, _, _, _, _, _, _, _, _, _, hAfter, _⟩ :=
          waits_of_accepts _ hFront hNumber hAccepts
        · rw [run, isSome_orElse, isSome_settle_of_mem (List.mem_reverse.2 hThread) hDone,
            Bool.true_or]
        · cases hAfter
      · obtain ⟨_, _, _, _, _, hText, -⟩ := hLater
        cases hText
  | cons c rest ih =>
      intro before front found hFront hAwaits
      -- Threads are dropped at this place only if something has been found.
      by_cases hFound : ((machine.settle front.waiting.reverse).2 <|> found).isSome = true
      · exact isSome_run_of_found rest hFound
      · rw [isSome_orElse, Bool.or_eq_true, not_or] at hFound
        obtain ⟨hLatest, hFound⟩ := hFound
        rw [Option.not_isSome_iff_eq_none] at hLatest hFound
        have hNone : ∀ thread ∈ front.waiting, machine.isDone thread = false := by
          intro thread hThread
          by_contra hDone
          have hSome := isSome_settle_of_mem (List.mem_reverse.2 hThread) (by simpa using hDone)
          simp [hLatest] at hSome
        have hAll := settle_eq_of_none hLatest
        obtain ⟨hClosed, hKept, hRead⟩ := closed_readAll (c := c) front.waiting.reverse
          (closed_emptyFront machine ⟨before.length + 1, some c, rest.head?⟩)
        obtain ⟨hStarted, hStart⟩ := closed_addThread hClosed ⟨machine.start, .nothing⟩
        subst hFound
        simp only [run, hLatest, hAll]
        refine ih (c :: before) hStarted (hAwaits.read hFront hNone ?_ hStart)
        intro thread hThread set target hState hChar
        have hTarget := hRead thread (List.mem_reverse.2 hThread) set target hState hChar
        exact entered_addThread hTarget ⟨machine.start, .nothing⟩

/-- What the machine accepts somewhere in a text is found, if not something else. -/
theorem isSome_search_of_accepts {text : List Char} {n : Nat} {first last : Spot}
    (hText : first.text = text) (hHeld : first.held = .nothing)
    (hAccepts : Accepts machine.states n machine.start first last) :
    (machine.search text).isSome = true := by
  obtain ⟨hFront, hStart⟩ := closed_addThread (closed_emptyFront machine ⟨0, none, text.head?⟩)
    ⟨machine.start, .nothing⟩
  refine isSome_run_of_awaits text [] hFront ?_
  obtain ⟨before, after, held⟩ := first
  obtain rfl : held = .nothing := hHeld
  cases hBefore : before.reverse with
  | nil =>
      obtain rfl : before = [] := List.reverse_eq_nil_iff.1 hBefore
      obtain rfl : after = text := hText
      exact .inl ⟨machine.start, n, .nothing, last, hStart, hAccepts⟩
  | cons c passed =>
      obtain rfl : before = passed.reverse ++ [c] := by
        rw [← List.reverse_cons, ← hBefore, List.reverse_reverse]
      refine .inr ⟨c, passed, after, n, last, ?_, hAccepts⟩
      rw [← hText, Spot.text, hBefore, List.cons_append]

end Machine

namespace Pattern

/-- A search finds something exactly if the pattern spans some of the text. -/
theorem exists_search_iff {pattern : Pattern} {text : List Char} :
    (∃ held, (Machine.ofPattern pattern).search text = some held) ↔
      ∃ first last : Spot, first.text = text ∧ first.held = .nothing ∧
        pattern.Spans first last := by
  constructor
  · rintro ⟨held, h⟩
    obtain ⟨first, last, hText, hHeld, hSpans, -⟩ := exists_spans_of_search h
    exact ⟨first, last, hText, hHeld, hSpans⟩
  · rintro ⟨first, last, hText, hHeld, hSpans⟩
    obtain ⟨n, hAccepts⟩ := Machine.accepts_of_spans hSpans
    exact Option.isSome_iff_exists.1 (Machine.isSome_search_of_accepts hText hHeld hAccepts)

end Pattern

end CratePlan
