import CratePlan.Pattern.Basic
import CratePlan.Text.ByteRows
import Std.Data.HashMap

/-!
# The room that a pattern takes up

A pattern with large repetitions, or with many large sets, is refused: automata that
match it would not fit a given room. Two of them count, one that reads the bytes of a
text forwards and one that reads them backwards, and each has to fit.

This module counts the states of these automata without building them. A state takes
up a fixed room, and each of the states that may follow a state with several takes up
a little more. Copies of a repeated body count as often as they occur, so the count
stops as soon as the room is exceeded.

A set beyond ASCII is a small automaton on bytes in which equal states are shared, as
far as a memory of limited size remembers them.
-/

namespace CratePlan.Pattern

open CratePlan.Text

/-- The room that has been taken up: states, and the bytes of what leads on from
states with several that may follow. -/
structure Room where
  states : Nat
  links : Nat
deriving Repr, DecidableEq, Inhabited

namespace Room

/-- No room. -/
def none : Room := ⟨0, 0⟩

/-- The room in bytes. -/
def bytes (room : Room) : Nat := 32 * room.states + room.links

/-- The room that there is, ten times `2 ^ 20` bytes. -/
def limit : Nat := 10 * Nat.pow 2 20

end Room

/-- Counting the room of an automaton. It fails when the limit is exceeded. -/
abbrev Counting := StateT Room Option

namespace Counting

/-- Count a state, with the bytes of its links. The answer is its number. -/
def state (links : Nat) : Counting Nat := fun room =>
  let next : Room := ⟨room.states + 1, room.links + links⟩
  if next.bytes ≤ Room.limit then some (room.states, next) else none

/-- Count so many states without links. -/
def states (n : Nat) : Counting Unit := fun room =>
  let next : Room := { room with states := room.states + n }
  if next.bytes ≤ Room.limit then some ((), next) else none

/-- Count a state that leads to so many others in order of preference. -/
def fork (n : Nat) : Counting Unit := discard (state (4 * n))

/-- Count a state that leads on for the bytes of so many intervals. -/
def branch (n : Nat) : Counting Nat := state (8 * n)

/-- Count the same several times. -/
def copies (once : Counting Unit) : Nat → Counting Unit
  | 0 => pure ()
  | n + 1 => do
    once
    copies once n

/-! ## Sets beyond ASCII -/

/-- States that are remembered by what leads on from them. There is one in each place
of the memory at most. -/
abbrev Memory := Std.HashMap Nat (List Nat × Nat)

/-- The place of a key in a memory of a given size. -/
def placeOf (size : Nat) (key : List Nat) : Nat :=
  (key.foldl (fun mixed n => (mixed ^^^ n.toUInt64) * 1099511628211)
    (14695981039346656037 : UInt64)).toNat % size

/-- The state with a key: one that is remembered, or else a new one, which takes the
place of another. -/
def shared (size : Nat) (key : List Nat) (new : Counting Nat) (memory : Memory) :
    Counting (Nat × Memory) := do
  let place := placeOf size key
  match memory[place]? with
  | some (other, number) =>
    if other = key then return (number, memory)
    else
      let number ← new
      return (number, memory.insert place (key, number))
  | none =>
    let number ← new
    return (number, memory.insert place (key, number))

/-- The rows of bytes that a set holds. -/
def rowsOf (set : CharSet) : List ByteRow :=
  set.ranges.flatMap fun range => byteRows range.1 range.2

/-- Rows that begin with the same interval and stand next to each other, by that
interval. -/
def byFirst : List ByteRow → List ((Nat × Nat) × List ByteRow)
  | [] => []
  | [] :: rest => byFirst rest
  | (first :: row) :: rest =>
    match byFirst rest with
    | (other, rows) :: groups =>
      if first = other then (first, row :: rows) :: groups
      else (first, [row]) :: (other, rows) :: groups
    | [] => [(first, [row])]

/-- Count the states that read rows forwards, up to the state `last`. The answer is the
number of the first of them. A row has four intervals at most. -/
def forwardRows (last : Nat) : Nat → List ByteRow → Memory → Counting (Nat × Memory)
  | 0, _, memory => pure (last, memory)
  | n + 1, rows, memory => do
    let groups := byFirst rows
    if groups.isEmpty then return (last, memory)
    let (links, memory) ← groups.foldlM
      (fun (links, memory) group => do
        let (next, memory) ← forwardRows last n group.2 memory
        return (links ++ [group.1.1, group.1.2, next], memory))
      ([], memory)
    shared 10000 links (branch groups.length) memory

/-- Count the states that read a row backwards, down to the state `last`. -/
def backwardRow (last : Nat) : ByteRow → Memory → Counting (Nat × Memory)
  | [], memory => pure (last, memory)
  | interval :: row, memory => do
    let (next, memory) ← shared 1000 [last, interval.1, interval.2] (state 0) memory
    backwardRow next row memory

/-- Count the states that read a character of a set. -/
def set (backward : Bool) (set : CharSet) : Counting Unit := do
  if set.isAscii then
    states 1
    discard (branch set.ranges.length)
  else
    let rows := rowsOf set
    if backward then
      fork rows.length
      let last ← state 0
      discard (rows.foldlM (fun memory row => do return (← backwardRow last row memory).2) {})
    else
      let last ← state 0
      discard (forwardRows last 5 rows {})

/-! ## Alternatives of literals -/

/-- Texts by their first byte, each with what is left of them. -/
abbrev Chunk := List (Nat × List (List Nat))

/-- Put a text that begins with a byte among others. -/
def addToChunk (byte : Nat) (text : List Nat) : Chunk → Chunk
  | [] => [(byte, [text])]
  | (other, texts) :: rest =>
    if byte = other then (other, texts ++ [text]) :: rest
    else (other, texts) :: addToChunk byte text rest

/-- Texts by their first byte, in chunks: a text that ends here ends a chunk. The first
list has the chunks that have ended. -/
def chunksOf (texts : List (List Nat)) : List Chunk × Chunk :=
  texts.foldl
    (fun (ended, chunk) text =>
      match text with
      | [] =>
        if chunk.isEmpty && !ended.isEmpty && ended.all List.isEmpty then (ended, chunk)
        else (ended ++ [chunk], [])
      | byte :: rest => (ended, addToChunk byte rest chunk))
    ([], [])

/-- Count the states that read one of several texts, of a length up to a bound. Texts
share the states of what they begin with. -/
def texts : Nat → List (List Nat) → Counting Unit
  | 0, _ => pure ()
  | n + 1, given => do
    let (ended, last) := chunksOf given
    let chunks := (ended ++ [last]).filter (!·.isEmpty)
    for chunk in chunks do
      discard (if chunk.length = 1 then state 0 else branch chunk.length)
    fork (chunks.length + ended.length)
    for chunk in chunks do
      for (_, rest) in chunk do
        if rest.any (!·.isEmpty) then texts n rest

/-! ## Patterns -/

/-- The bytes of a literal. -/
def literalBytes? : Pattern → Option (List Nat)
  | .literal text => some ((String.ofList text).toUTF8.toList.map UInt8.toNat)
  | _ => none

/-- Count the states of a repetition. `needed` says that each round of its body reads a
character. -/
def repetition (least : Nat) (most : Option Nat) (needed : Bool) (body : Counting Unit) :
    Counting Unit := do
  match least, most with
  | 0, some 1 =>
    fork 2
    body
    states 1
  | least, some most =>
    if least = 0 then states 1 else copies body least
    if least < most then
      states 1
      copies (do fork 2; body) (most - least)
  | 0, none =>
    if needed then
      fork 2
      body
    else
      body
      fork 2
      fork 2
      states 1
  | least, none =>
    copies body least
    fork 2

/-- Count the states of a pattern. `inner` says that the state in front of the choices
that it is one of has been counted. -/
def pattern (backward : Bool) : (inner : Bool) → Pattern → Counting Unit
  | _, .empty => states 1
  | _, .literal text => states (String.ofList text).utf8ByteSize
  | _, .one chars => set backward chars
  | _, .boundary _ => states 1
  | _, .group _ _ body => do
    if !backward then states 1
    pattern backward false body
    if !backward then states 1
  | _, .seq first second => do
    if backward then
      pattern backward false second
      pattern backward false first
    else
      pattern backward false first
      pattern backward false second
  | true, .either first second => do
    pattern backward false first
    pattern backward true second
  | false, .either first second => do
    let choices := (Pattern.either first second).choices
    match choices.mapM literalBytes? with
    | some literals =>
      let literals := if backward then literals.map List.reverse else literals
      states 1
      texts ((literals.map List.length).foldl max 0 + 1) literals
    | none =>
      states 1
      fork choices.length
      pattern backward false first
      pattern backward true second
  | _, .repeated least most _ body =>
    repetition least most body.isNeverEmpty (pattern backward false body)

end Counting

/-- A match can only begin at the start of the text, as the start of the pattern says. -/
def beginsAtStart : Pattern → Bool
  | boundary condition => condition == .textStart
  | group _ _ body => beginsAtStart body
  | seq first second => beginsAtStart first || (first.isAlwaysEmpty && beginsAtStart second)
  | either first second => beginsAtStart first && beginsAtStart second
  | repeated least _ _ body => 0 < least && beginsAtStart body
  | _ => false

/-- A match can only end at the end of the text, as the end of the pattern says. -/
def endsAtEnd : Pattern → Bool
  | boundary condition => condition == .textEnd
  | group _ _ body => endsAtEnd body
  | seq first second => endsAtEnd second || (second.isAlwaysEmpty && endsAtEnd first)
  | either first second => endsAtEnd first && endsAtEnd second
  | repeated least _ _ body => 0 < least && endsAtEnd body
  | _ => false

/-- Count the states of an automaton for a pattern. Where a match may begin anywhere,
it has states that skip what is before the match. -/
def countStates (backward : Bool) (pattern : Pattern) : Counting Unit := do
  if if backward then pattern.endsAtEnd else pattern.beginsAtStart then Counting.states 1
  else
    Counting.fork 2
    Counting.states 1
    discard (Counting.branch 1)
  Counting.pattern backward false (if backward then pattern else .group 0 none pattern)
  Counting.states 1

/-- The automata of a pattern fit the room that there is. -/
def fits (pattern : Pattern) : Bool :=
  ((pattern.countStates false).run .none).isSome &&
    ((pattern.countStates true).run .none).isSome

end CratePlan.Pattern
