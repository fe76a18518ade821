import CratePlan.Pattern.Boundary
import CratePlan.Pattern.CharSet

/-!
# Name patterns

The settings describe names by patterns: regular expressions with named groups.
This module has the patterns themselves, as trees, and the functions that put them
together. How one is read from text is in `CratePlan.Pattern.Reader`, what it matches
in `CratePlan.Pattern.Match`.

The functions keep patterns in a normal form, which decides between the ways to match
a text that a pattern leaves open. In a sequence, characters that follow each other
are one literal, and no part is a sequence or empty. No choice of an alternative is an
alternative; choices between single characters are a set, and what all choices begin
with stands in front of them. What can only match the empty text is repeated once at
most.
-/

namespace CratePlan

/-- A pattern, as a tree. -/
inductive Pattern where
  /-- Matches the empty text. -/
  | empty
  /-- Matches a text that is not empty. -/
  | literal (text : List Char)
  /-- Matches one character of a set. -/
  | one (set : CharSet)
  /-- Matches the empty text where a condition is met. -/
  | boundary (condition : Boundary)
  /-- Matches what its body matches; a named group keeps that text. The groups of a
  pattern are numbered. -/
  | group (number : Nat) (name : Option String) (body : Pattern)
  /-- One pattern and then the other. -/
  | seq (first second : Pattern)
  /-- The first pattern if it leads to a match, or else the second. -/
  | either (first second : Pattern)
  /-- The body a number of times, from `least` to `most`; as often as possible if
  `greedy`, as seldom as possible if not. -/
  | repeated (least : Nat) (most : Option Nat) (greedy : Bool) (body : Pattern)
deriving Repr, DecidableEq, Inhabited

namespace Pattern

/-- The names of the groups that a match may fill. -/
def groupNames : Pattern → List String
  | empty => []
  | literal _ => []
  | one _ => []
  | boundary _ => []
  | group _ name body => name.toList ++ groupNames body
  | seq first second => groupNames first ++ groupNames second
  | either first second => groupNames first ++ groupNames second
  | repeated _ _ _ body => groupNames body

/-- The parts of a sequence; another pattern is its only part, and the empty one has
none. -/
def parts : Pattern → List Pattern
  | empty => []
  | seq first second => parts first ++ parts second
  | pattern => [pattern]

/-- The choices of an alternative; another pattern is its only choice. -/
def choices : Pattern → List Pattern
  | either first second => choices first ++ choices second
  | pattern => [pattern]

/-- The number of nodes of a pattern. -/
def weight : Pattern → Nat
  | group _ _ body => weight body + 1
  | seq first second => weight first + weight second + 1
  | either first second => weight first + weight second + 1
  | repeated _ _ _ body => weight body + 1
  | _ => 1

/-! ## Lengths of what a pattern matches -/

/-- A text that the pattern matches has at least so many characters; nothing is known
if some set in it has no character. -/
def leastLength? : Pattern → Option Nat
  | empty => some 0
  | literal text => some text.length
  | one set => if set.isEmpty then none else some 1
  | boundary _ => some 0
  | group _ _ body => leastLength? body
  | seq first second => do return (← leastLength? first) + (← leastLength? second)
  | either first second => do return min (← leastLength? first) (← leastLength? second)
  | repeated least _ _ body => (leastLength? body).map (· * least)

/-- The pattern is known not to match the empty text. -/
def isNeverEmpty (pattern : Pattern) : Bool :=
  pattern.leastLength?.any (0 < ·)

/-- The pattern can only match the empty text. -/
def isAlwaysEmpty : Pattern → Bool
  | empty => true
  | literal _ => false
  | one _ => false
  | boundary _ => true
  | group _ _ body => isAlwaysEmpty body
  | seq first second => isAlwaysEmpty first && isAlwaysEmpty second
  | either first second => isAlwaysEmpty first && isAlwaysEmpty second
  | repeated _ most _ body => most.isSome && isAlwaysEmpty body

/-! ## The normal form -/

/-- The pattern that matches one character of a set. -/
def ofSet (set : CharSet) : Pattern :=
  match set.onlyChar? with
  | some c => literal [c]
  | none => one set

/-- Put a part before others, joined with a literal that they begin with. -/
def joinLiteral (part : Pattern) (rest : List Pattern) : List Pattern :=
  match part, rest with
  | literal text, literal next :: rest => literal (text ++ next) :: rest
  | _, _ => part :: rest

/-- The patterns of a list, one after the other, if none is a sequence. -/
def chain : List Pattern → Pattern
  | [] => empty
  | [pattern] => pattern
  | pattern :: next :: rest => seq pattern (chain (next :: rest))

/-- The patterns of a list, one after the other. -/
def sequence (patterns : List Pattern) : Pattern :=
  chain ((patterns.flatMap parts).foldr joinLiteral [])

/-- The patterns of a list as choices, if none is an alternative. -/
def fork : List Pattern → Pattern
  | [] => empty
  | [pattern] => pattern
  | pattern :: next :: rest => either pattern (fork (next :: rest))

/-- The set that choices between single characters make up. -/
def setOfChars? : List Pattern → Option CharSet
  | [] => some .none
  | literal [c] :: rest => (setOfChars? rest).map (CharSet.single c).union
  | _ => none

/-- The set that choices between sets make up. -/
def setOfSets? : List Pattern → Option CharSet
  | [] => some .none
  | one set :: rest => (setOfSets? rest).map set.union
  | _ => none

/-- How many parts two lists have in common at their start. -/
def commonLength : List Pattern → List Pattern → Nat
  | a :: as, b :: bs => if a = b then commonLength as bs + 1 else 0
  | _, _ => 0

/-- How many parts all choices begin with. Every choice must be a sequence. -/
def sharedLength : List Pattern → Nat
  | [] => 0
  | first :: rest =>
    if (first :: rest).all fun choice => 2 ≤ choice.parts.length then
      rest.foldl (fun n choice => min n (commonLength first.parts choice.parts))
        first.parts.length
    else 0

/-- The patterns of a list as choices in the order in which they are tried. Each round
takes off what all of them begin with. -/
def alternativesWithin : Nat → List Pattern → Pattern
  | 0, patterns => fork patterns
  | n + 1, patterns =>
    let patterns := patterns.flatMap choices
    match patterns with
    | [] => empty
    | [pattern] => pattern
    | first :: _ =>
      match setOfChars? patterns, setOfSets? patterns with
      | some set, _ => ofSet set
      | none, some set => ofSet set
      | none, none =>
        match sharedLength patterns with
        | 0 => fork patterns
        | shared + 1 =>
          let others := patterns.map fun pattern => sequence (pattern.parts.drop (shared + 1))
          sequence (first.parts.take (shared + 1) ++ [alternativesWithin n others])

/-- The patterns of a list as choices in the order in which they are tried. -/
def alternatives (patterns : List Pattern) : Pattern :=
  alternativesWithin ((patterns.map weight).foldl Nat.add 1) patterns

/-- A pattern a number of times. Of what can only match the empty text, one time is as
good as any number. -/
def times (least : Nat) (most : Option Nat) (greedy : Bool) (body : Pattern) : Pattern :=
  let (least, most) :=
    if body.isAlwaysEmpty then (min least 1, some ((most.map (min · 1)).getD 1)) else (least, most)
  if most = some 0 then empty
  else if least = 1 ∧ most = some 1 then body
  else repeated least most greedy body

end Pattern

end CratePlan
