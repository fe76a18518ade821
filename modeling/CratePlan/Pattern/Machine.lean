import CratePlan.Pattern.Basic

/-!
# Machines that match patterns

A pattern is matched by a machine: states with numbers, each with what it asks for or
does and the states that come next. Most states are passed without a step in the text;
only those that read stand for a character.

Which of two ways the machine prefers depends on the states that they share, so the
way in which repetitions are built is part of what a pattern means. A repetition ends
each round in one state that leads back to the body or out of it. Where the body may
match the empty text, the state that enters the repetition is another one.
-/

namespace CratePlan

/-- A state of a machine. -/
inductive MachineState where
  /-- Go on in one of two states; the first is preferred. -/
  | fork (preferred other : Nat)
  /-- Read a character of a set. -/
  | read (set : CharSet) (next : Nat)
  /-- Go on if a condition is met. -/
  | check (condition : Boundary) (next : Nat)
  /-- A named group begins. -/
  | opening (name : String) (next : Nat)
  /-- A named group ends. -/
  | closing (name : String) (next : Nat)
  /-- The pattern has matched. -/
  | done
deriving Repr, DecidableEq, Inhabited

/-- A machine. -/
structure Machine where
  states : Array MachineState
  start : Nat
deriving Repr, DecidableEq, Inhabited

namespace Machine

/-- A step in building a machine. The states so far are known. -/
abbrev Builder := StateM (Array MachineState)

/-- Add a state. The answer is its number. -/
def add (state : MachineState) : Builder Nat := fun states => (states.size, states.push state)

/-- Replace a state. -/
def put (number : Nat) (state : MachineState) : Builder Unit :=
  fun states => ((), states.setIfInBounds number state)

/-- A state that leads to one more round or out of a repetition. -/
def choice (greedy : Bool) (round out : Nat) : MachineState :=
  if greedy then .fork round out else .fork out round

/-- States that read the characters of a text. -/
def readAll (next : Nat) : List Char → Builder Nat
  | [] => pure next
  | c :: rest => do add (.read (.single c) (← readAll next rest))

/-- Exactly `n` times the states of a body, which `body` builds in front of others. -/
def copies (body : Nat → Builder Nat) : Nat → Nat → Builder Nat
  | 0, next => pure next
  | n + 1, next => do copies body n (← body next)

/-- At most `n` times the states of a body; each round can be the last. -/
def optionalCopies (greedy : Bool) (body : Nat → Builder Nat) (out : Nat) :
    Nat → Nat → Builder Nat
  | 0, next => pure next
  | n + 1, next => do
    let round ← body next
    optionalCopies greedy body out n (← add (choice greedy round out))

/-- A body and a state behind it that leads back to it. The answer has the number of
the body and that of the state. -/
def loop (greedy : Bool) (body : Nat → Builder Nat) (next : Nat) : Builder (Nat × Nat) := do
  let back ← add .done
  let round ← body back
  put back (choice greedy round next)
  return (round, back)

/-- A body any number of times. `needed` says that each round reads a character. -/
def anyCopies (greedy needed : Bool) (body : Nat → Builder Nat) (next : Nat) : Builder Nat := do
  let (round, back) ← loop greedy body next
  if needed then return back else add (choice greedy round next)

/-- A body between two numbers of times. -/
def repetition (least : Nat) (most : Option Nat) (greedy needed : Bool)
    (body : Nat → Builder Nat) (next : Nat) : Builder Nat := do
  match most with
  | some most =>
    copies body least (← optionalCopies greedy body next (most - least) next)
  | none =>
    match least with
    | 0 => anyCopies greedy needed body next
    | n + 1 => copies body n (← loop greedy body next).1

/-- Build the states of a pattern in front of the state `next`. -/
def build : Pattern → Nat → Builder Nat
  | .empty, next => pure next
  | .literal text, next => readAll next text
  | .one set, next => add (.read set next)
  | .boundary condition, next => add (.check condition next)
  | .group _ none body, next => build body next
  | .group _ (some name) body, next => do
    let last ← add (.closing name next)
    add (.opening name (← build body last))
  | .seq first second, next => do build first (← build second next)
  | .either first second, next => do
    let preferred ← build first next
    add (.fork preferred (← build second next))
  | .repeated least most greedy body, next =>
    repetition least most greedy body.isNeverEmpty (build body) next

/-- The machine of a pattern. -/
def ofPattern (pattern : Pattern) : Machine :=
  let (start, states) := (build pattern 0).run #[.done]
  ⟨states, start⟩

end Machine

end CratePlan
