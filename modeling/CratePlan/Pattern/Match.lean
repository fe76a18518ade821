import CratePlan.Pattern.Machine

/-!
# What a pattern matches

The machine of a pattern goes through a text with several *threads* at once, one for
each state that it may be in. Threads are ordered: the first is the one that the
pattern prefers. At each place of the text the threads go on, in order, as far as they
come without reading; a state that one of them has passed there is closed to those
behind it. Then all of them read the next character, or stop.

A thread that reaches the end has found a match. Threads behind it stop; those before
it go on, and may still find a match that is preferred. The match begins as far left
as possible, since as long as none is found, a thread that begins at the present place
is added behind the others.

`Machine.enter_seen` says that a state which is closed stays closed, so that no thread
is added twice.
-/

namespace CratePlan

/-- What the named groups hold while a match goes on. Places are numbers of characters
from the start of the text. -/
structure Held where
  /-- Where groups begin, the latest first. -/
  opened : List (String × Nat)
  /-- Where groups begin and end, the latest first. -/
  spans : List (String × (Nat × Nat))
deriving Repr, DecidableEq, Inhabited

namespace Held

/-- No group has begun. -/
def nothing : Held := ⟨[], []⟩

/-- A group begins. -/
def openAt (held : Held) (name : String) (place : Nat) : Held :=
  { held with opened := (name, place) :: held.opened }

/-- A group ends. -/
def closeAt (held : Held) (name : String) (place : Nat) : Held :=
  match held.opened.lookup name with
  | some start => { held with spans := (name, (start, place)) :: held.spans }
  | none => held

/-- What a group holds of a text. -/
def text? (held : Held) (name : String) (text : List Char) : Option (List Char) :=
  (held.spans.lookup name).map fun span => (text.drop span.1).take (span.2 - span.1)

end Held

/-- A thread: the state that it is in and what the groups hold. -/
structure Thread where
  state : Nat
  held : Held
deriving Repr, DecidableEq, Inhabited

/-- A place of a text. -/
structure Place where
  /-- The number of characters before it. -/
  number : Nat
  before : Option Char
  after : Option Char
deriving Repr, DecidableEq, Inhabited

/-- The threads at one place. -/
structure Front where
  /-- For each state, whether a thread has been in it. -/
  seen : Array Bool
  /-- Threads that read or are done, the last first. -/
  waiting : List Thread
deriving Repr, DecidableEq, Inhabited

namespace Machine

/-- A front without threads. -/
def emptyFront (machine : Machine) : Front :=
  ⟨Array.replicate machine.states.size false, []⟩

/-- Let threads go on as far as they come without reading, the first of them first. -/
def enter (machine : Machine) (place : Place) : Nat → List Thread → Front → Front
  | 0, _, front => front
  | _, [], front => front
  | n + 1, thread :: others, front =>
    if front.seen.getD thread.state true then enter machine place n others front
    else
      let front := { front with seen := front.seen.setIfInBounds thread.state true }
      match machine.states[thread.state]? with
      | none => enter machine place n others front
      | some (.fork preferred other) =>
        enter machine place n ({ thread with state := preferred } ::
          { thread with state := other } :: others) front
      | some (.check condition next) =>
        if condition.holds place.before place.after then
          enter machine place n ({ thread with state := next } :: others) front
        else enter machine place n others front
      | some (.opening name next) =>
        enter machine place n (⟨next, thread.held.openAt name place.number⟩ :: others) front
      | some (.closing name next) =>
        enter machine place n (⟨next, thread.held.closeAt name place.number⟩ :: others) front
      | some (.read _ _) =>
        enter machine place n others { front with waiting := thread :: front.waiting }
      | some .done =>
        enter machine place n others { front with waiting := thread :: front.waiting }

/-- Add a thread to a front. Every state is entered once and leads to two others at
most, which bounds the steps. -/
def addThread (machine : Machine) (place : Place) (front : Front) (thread : Thread) : Front :=
  machine.enter place (2 * machine.states.size + 2) [thread] front

/-- The thread has come to the end of the pattern. -/
def isDone (machine : Machine) (thread : Thread) : Bool :=
  machine.states[thread.state]? == some .done

/-- The threads before the first that is done, and what its groups hold. -/
def settle (machine : Machine) (threads : List Thread) : List Thread × Option Held :=
  (threads.takeWhile fun thread => !machine.isDone thread,
    (threads.find? machine.isDone).map (·.held))

/-- Let a thread read a character, and go on at the place behind it. -/
def readChar (machine : Machine) (place : Place) (c : Char) (front : Front) (thread : Thread) :
    Front :=
  match machine.states[thread.state]? with
  | some (.read set next) =>
    if set.holds c then machine.addThread place front { thread with state := next } else front
  | _ => front

/-- Go through the rest of a text with the threads of a front. `found` is what the
groups hold in the match that has been found so far. -/
def run (machine : Machine) (number : Nat) (front : Front) (found : Option Held) :
    List Char → Option Held
  | [] => (machine.settle front.waiting.reverse).2 <|> found
  | c :: rest =>
    let (threads, latest) := machine.settle front.waiting.reverse
    let found := latest <|> found
    let place : Place := ⟨number + 1, some c, rest.head?⟩
    let front := threads.foldl (machine.readChar place c) machine.emptyFront
    let front :=
      if found.isNone then machine.addThread place front ⟨machine.start, .nothing⟩ else front
    run machine (number + 1) front found rest

/-- What the groups hold in the match of a text. -/
def search (machine : Machine) (text : List Char) : Option Held :=
  let place : Place := ⟨0, none, text.head?⟩
  machine.run 0 (machine.addThread place machine.emptyFront ⟨machine.start, .nothing⟩) none text

/-- A state that is closed stays closed. -/
theorem enter_seen (machine : Machine) (place : Place) (state : Nat) :
    ∀ (n : Nat) (threads : List Thread) (front : Front), front.seen.getD state true = true →
      (machine.enter place n threads front).seen.getD state true = true := by
  intro n
  induction n with
  | zero => intro threads front h; simpa [enter] using h
  | succ n ih =>
    intro threads front h
    cases threads with
    | nil => simpa [enter] using h
    | cons thread others =>
      have hClosed : (front.seen.setIfInBounds thread.state true).getD state true = true := by
        rw [Array.getD_eq_getD_getElem?, Array.getElem?_setIfInBounds]
        rw [Array.getD_eq_getD_getElem?] at h
        grind
      simp only [enter]
      split
      · exact ih _ _ h
      · split <;> try split
        all_goals exact ih _ _ hClosed

end Machine

namespace Pattern

/-- What the group `name` holds in the match of a pattern; nothing if there is no
match, or if the match did not enter the group. -/
def capture? (pattern : Pattern) (name : String) (text : String) : Option String :=
  let chars := text.toList
  ((Machine.ofPattern pattern).search chars).bind fun held =>
    (held.text? name chars).map String.ofList

end Pattern

end CratePlan
