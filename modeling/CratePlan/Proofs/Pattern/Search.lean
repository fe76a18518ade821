import CratePlan.Proofs.Pattern.Accepts

/-!
# What a search finds

A search goes through a text with many threads at once and drops most of them. For what
it finds it is enough that none of them is ever made up: every thread has come by steps
of the machine from its start, from some earlier place of the text. `Came` is the
invariant, and closing states, preferring threads and dropping them keep it without
further ado.

So a search finds spans of the pattern only. That it finds one if there is one is said in
`CratePlan.Proofs.Pattern.Found`; which of several it prefers is not said.

## Main statements

* `came_of_mem_enter`: threads that go on without reading.
* `matched_of_search`: what a search finds has been accepted by the machine.
* `Pattern.exists_spans_of_search`: what a search finds is held at the end of a span.
-/

namespace CratePlan

namespace Machine

variable {machine : Machine} {text : List Char}

/-- The machine comes in steps from its start, at some place of the text with no group
begun, to a state at a spot. -/
inductive Comes (machine : Machine) (text : List Char) : Nat → Spot → Prop where
  | start {spot : Spot} (hText : spot.text = text) (hHeld : spot.held = .nothing) :
      Comes machine text machine.start spot
  | step {number next : Nat} {state : MachineState} {spot last : Spot}
      (hBefore : Comes machine text number spot) (hState : machine.states[number]? = some state)
      (hGoes : state.Goes spot next last) : Comes machine text next last

/-- A thread has come to the place between two parts of the text. -/
def Came (machine : Machine) (text before after : List Char) (thread : Thread) : Prop :=
  Comes machine text thread.state ⟨before, after, thread.held⟩

/-- What the groups hold at the end of something that the machine accepts. -/
def Matched (machine : Machine) (text : List Char) (held : Held) : Prop :=
  ∃ n first last, first.text = text ∧ first.held = .nothing ∧
    Accepts machine.states n machine.start first last ∧ last.held = held

/-- When steps from the start lead to the end, the machine accepts. -/
theorem Comes.matched {number : Nat} {spot : Spot} (h : Comes machine text number spot)
    (hDone : machine.states[number]? = some .done) : Matched machine text spot.held := by
  have hBack : ∀ n last, Accepts machine.states n number spot last →
      ∃ m first, first.text = text ∧ first.held = .nothing ∧
        Accepts machine.states m machine.start first last := by
    clear hDone
    induction h with
    | start hText hHeld => exact fun n last hRest => ⟨n, _, hText, hHeld, hRest⟩
    | step _ hState hGoes ih => exact fun n last hRest => ih (n + 1) last (.step hState hGoes hRest)
  obtain ⟨m, first, hText, hHeld, hAccepts⟩ := hBack 0 spot (.done hDone)
  exact ⟨m, first, spot, hText, hHeld, hAccepts, rfl⟩

/-! ## Threads -/

/-- Threads that go on without reading come to where they are by steps of the machine. -/
theorem came_of_mem_enter {before after : List Char} (n : Nat) :
    ∀ {threads : List Thread} {front : Front},
      (∀ thread ∈ threads, Came machine text before after thread) →
      (∀ thread ∈ front.waiting, Came machine text before after thread) →
      ∀ thread ∈ (machine.enter ⟨before.length, before.head?, after.head?⟩ n threads front).waiting,
        Came machine text before after thread := by
  induction n with
  | zero => exact fun _ hFront => hFront
  | succ n ih =>
      intro threads front hThreads hFront
      cases threads with
      | nil => exact hFront
      | cons thread others =>
          obtain ⟨hThread, hOthers⟩ := List.forall_mem_cons.1 hThreads
          -- A state that the thread goes on to puts it in front of the others again.
          have hOn : ∀ {next : Thread}, Came machine text before after next →
              ∀ other ∈ next :: others, Came machine text before after other :=
            fun hNext => List.forall_mem_cons.2 ⟨hNext, hOthers⟩
          simp only [enter]
          split
          case isTrue => exact ih hOthers hFront
          case isFalse =>
              split
              case h_1 => exact ih hOthers hFront
              case h_2 preferred other hState =>
                  have hOther : Came machine text before after { thread with state := other } :=
                    hThread.step hState ⟨.inr rfl, rfl⟩
                  have hPreferred : Came machine text before after
                      { thread with state := preferred } := hThread.step hState ⟨.inl rfl, rfl⟩
                  exact ih (List.forall_mem_cons.2 ⟨hPreferred, hOn hOther⟩) hFront
              case h_3 condition next hState =>
                  split
                  case isTrue hHolds =>
                      exact ih (hOn (hThread.step hState ⟨rfl, hHolds, rfl⟩)) hFront
                  case isFalse => exact ih hOthers hFront
              case h_4 name next hState => exact ih (hOn (hThread.step hState ⟨rfl, rfl⟩)) hFront
              case h_5 name next hState => exact ih (hOn (hThread.step hState ⟨rfl, rfl⟩)) hFront
              case h_6 => exact ih hOthers (List.forall_mem_cons.2 ⟨hThread, hFront⟩)
              case h_7 => exact ih hOthers (List.forall_mem_cons.2 ⟨hThread, hFront⟩)

theorem came_of_mem_addThread {before after : List Char} {front : Front} {thread : Thread}
    (hThread : Came machine text before after thread)
    (hFront : ∀ other ∈ front.waiting, Came machine text before after other) :
    ∀ other ∈
      (machine.addThread ⟨before.length, before.head?, after.head?⟩ front thread).waiting,
        Came machine text before after other :=
  came_of_mem_enter _ (by simpa using hThread) hFront

/-- A thread that reads a character comes to the place behind it. -/
theorem came_of_mem_readChar {before after : List Char} {c : Char} {front : Front} {thread : Thread}
    (hThread : Came machine text before (c :: after) thread)
    (hFront : ∀ other ∈ front.waiting, Came machine text (c :: before) after other) :
    ∀ other ∈ (machine.readChar ⟨before.length + 1, some c, after.head?⟩ c front thread).waiting,
      Came machine text (c :: before) after other := by
  unfold readChar
  split
  case h_1 set next hState =>
      split
      case isTrue hChar =>
          have hReads : Spot.Reads ⟨before, c :: after, thread.held⟩ [c]
              ⟨c :: before, after, thread.held⟩ := ⟨rfl, rfl, rfl⟩
          have hNext : Came machine text (c :: before) after { thread with state := next } :=
            hThread.step hState ⟨rfl, c, hChar, hReads⟩
          exact came_of_mem_addThread hNext hFront
      case isFalse => exact hFront
  case h_2 => exact hFront

theorem came_of_mem_readAll {before after : List Char} {c : Char} (threads : List Thread) :
    ∀ {front : Front}, (∀ thread ∈ threads, Came machine text before (c :: after) thread) →
      (∀ other ∈ front.waiting, Came machine text (c :: before) after other) →
      ∀ other ∈ (threads.foldl (machine.readChar ⟨before.length + 1, some c, after.head?⟩ c)
        front).waiting, Came machine text (c :: before) after other := by
  induction threads with
  | nil => exact fun _ hFront => hFront
  | cons thread others ih =>
      intro front hThreads hFront
      obtain ⟨hThread, hOthers⟩ := List.forall_mem_cons.1 hThreads
      exact ih hOthers (came_of_mem_readChar hThread hFront)

/-! ## The search -/

/-- What a thread holds that has come to the end has been matched. -/
theorem matched_of_settle {before after : List Char} {threads : List Thread} {held : Held}
    (hThreads : ∀ thread ∈ threads, Came machine text before after thread)
    (h : (machine.settle threads).2 = some held) : Matched machine text held := by
  obtain ⟨thread, hFound, rfl⟩ := Option.map_eq_some_iff.1 h
  have hDone : machine.isDone thread = true := List.find?_some hFound
  exact (hThreads thread (List.mem_of_find?_eq_some hFound)).matched (by simpa [isDone] using hDone)

theorem noneCame (machine : Machine) (text before after : List Char) :
    ∀ thread ∈ machine.emptyFront.waiting, Came machine text before after thread := by
  simp [emptyFront]

theorem matched_of_orElse {latest found : Option Held}
    (hLatest : ∀ held, latest = some held → Matched machine text held)
    (hFound : ∀ held, found = some held → Matched machine text held) :
    ∀ held, (latest <|> found) = some held → Matched machine text held := by
  cases latest with
  | none => exact hFound
  | some last => exact hLatest

theorem matched_of_run (rest : List Char) :
    ∀ {before : List Char} {front : Front} {found : Option Held}, before.reverse ++ rest = text →
      (∀ thread ∈ front.waiting, Came machine text before rest thread) →
      (∀ held, found = some held → Matched machine text held) →
      ∀ held, machine.run before.length front found rest = some held →
        Matched machine text held := by
  induction rest with
  | nil =>
      intro before front found _ hFront hFound
      have hThreads : ∀ thread ∈ front.waiting.reverse, Came machine text before [] thread := by
        simpa using hFront
      exact matched_of_orElse (fun held => matched_of_settle hThreads) hFound
  | cons c rest ih =>
      intro before front found hText hFront hFound held h
      have hThreads : ∀ thread ∈ front.waiting.reverse,
          Came machine text before (c :: rest) thread := by
        simpa using hFront
      have hKept : ∀ thread ∈ (machine.settle front.waiting.reverse).1,
          Came machine text before (c :: rest) thread :=
        fun thread hThread => hThreads thread ((List.takeWhile_subset _) hThread)
      have hRead := came_of_mem_readAll _ hKept (noneCame machine text (c :: before) rest)
      have hText : (c :: before).reverse ++ rest = text := by simpa using hText
      have hStart : Came machine text (c :: before) rest ⟨machine.start, .nothing⟩ :=
        .start hText rfl
      refine ih hText ?_ (matched_of_orElse (fun held => matched_of_settle hThreads) hFound) held h
      split
      case isTrue => exact came_of_mem_addThread hStart hRead
      case isFalse => exact hRead

/-- What a search finds has been matched. -/
theorem matched_of_search {held : Held} (h : machine.search text = some held) :
    Matched machine text held := by
  have hStart : Came machine text [] text ⟨machine.start, .nothing⟩ := .start rfl rfl
  have hFront := came_of_mem_addThread hStart (noneCame machine text [] text)
  have hText : [].reverse ++ text = text := rfl
  exact matched_of_run text hText hFront (fun _ hNone => by cases hNone) held h

end Machine

namespace Pattern

/-- What a search finds is held at the end of a span, which begins somewhere in the text with no
group begun. -/
theorem exists_spans_of_search {pattern : Pattern} {text : List Char} {held : Held}
    (h : (Machine.ofPattern pattern).search text = some held) :
    ∃ first last : Spot, first.text = text ∧ first.held = .nothing ∧ pattern.Spans first last ∧
      last.held = held := by
  obtain ⟨n, first, last, hText, hHeld, hAccepts, hLast⟩ := Machine.matched_of_search h
  exact ⟨first, last, hText, hHeld, Machine.spans_of_accepts hAccepts, hLast⟩

end Pattern

end CratePlan
