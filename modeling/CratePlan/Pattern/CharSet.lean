import CratePlan.Text.Blank
import CratePlan.Text.CaseOrbit
import CratePlan.Text.WordCharacter

/-!
# Sets of characters

What one position of a pattern may hold. A set is kept as closed intervals of code
points in increasing order, with a character missing between any two of them, so that
equal sets have equal intervals. Code points between the two halves of the code space
are no characters: the intervals before and behind that gap are one.

Ignoring case makes a set larger: it then holds every character that differs only in
case from one that it held before.
-/

namespace CratePlan

open CratePlan.Text

/-- A set of characters. -/
structure CharSet where
  ranges : CodeRanges
deriving Repr, DecidableEq, Inhabited

namespace CharSet

/-- The character is in the set. -/
def holds (set : CharSet) (c : Char) : Bool := set.ranges.holds c

/-- The last code point. -/
def lastCode : Nat := 0x10FFFF

/-- The code point of the character behind another. -/
def codeAfter (n : Nat) : Nat := if n == 0xD7FF then 0xE000 else n + 1

/-- The code point of the character before another. -/
def codeBefore (n : Nat) : Nat := if n == 0xE000 then 0xD7FF else n - 1

/-! ## Sets and their algebra -/

/-- The set without characters. -/
def none : CharSet := ⟨[]⟩

/-- The characters from one to another. -/
def range (first last : Char) : CharSet := ⟨[(first.toNat, last.toNat)]⟩

/-- The set of one character. -/
def single (c : Char) : CharSet := range c c

/-- Put an interval among others, joined with those that it touches. -/
def insertRange (range : Nat × Nat) : CodeRanges → CodeRanges
  | [] => [range]
  | next :: rest =>
    if codeAfter range.2 < next.1 then range :: next :: rest
    else if codeAfter next.2 < range.1 then next :: insertRange range rest
    else insertRange (min range.1 next.1, max range.2 next.2) rest

/-- The characters of two sets. -/
def union (left right : CharSet) : CharSet :=
  if left.ranges.isEmpty then right
  else ⟨right.ranges.foldl (fun ranges range => insertRange range ranges) left.ranges⟩

/-- The characters of a list of ranges. -/
def ofRanges (ranges : List (Char × Char)) : CharSet :=
  ranges.foldl (fun set r => set.union (range r.1 r.2)) none

/-- The code points from `first` on that lie in no interval of a list. -/
def gapsFrom (first : Nat) : CodeRanges → CodeRanges
  | [] => if first ≤ lastCode then [(first, lastCode)] else []
  | next :: rest =>
    (if first < next.1 then [(first, codeBefore next.1)] else []) ++
      gapsFrom (codeAfter next.2) rest

/-- The characters that are not in a set. -/
def complement (set : CharSet) : CharSet := ⟨gapsFrom 0 set.ranges⟩

/-- What two intervals have in common. -/
def meet? (a b : Nat × Nat) : Option (Nat × Nat) :=
  if max a.1 b.1 ≤ min a.2 b.2 then some (max a.1 b.1, min a.2 b.2) else Option.none

/-- The characters that are in both sets. -/
def inter (left right : CharSet) : CharSet :=
  ⟨left.ranges.flatMap fun range => right.ranges.filterMap (meet? range)⟩

/-- The characters of one set that are not in the other. -/
def minus (left right : CharSet) : CharSet :=
  left.inter right.complement

/-- The characters of one set or the other, but not of both. -/
def symmetricMinus (left right : CharSet) : CharSet :=
  (left.minus right).union (right.minus left)

/-! ## Particular sets -/

/-- All characters. -/
def all : CharSet := none.complement

/-- Letters, marks, digits and connectors of all scripts. -/
def word : CharSet := ⟨wordRanges⟩

/-- Decimal digits of all scripts. -/
def decimal : CharSet := ⟨decimalRanges⟩

/-- Blank characters. -/
def blank : CharSet := ⟨blankRanges⟩

/-- The ASCII characters. -/
def ascii : CharSet := range '\x00' '\x7f'

/-- The set holds ASCII characters only. -/
def isAscii (set : CharSet) : Bool :=
  set.ranges.all fun range => range.2 < 128

/-- The set has no character. -/
def isEmpty (set : CharSet) : Bool := set.ranges.isEmpty

/-- The character of a set that has only one. -/
def onlyChar? (set : CharSet) : Option Char :=
  match set.ranges with
  | [(first, last)] => if first == last then some (Char.ofNat first) else Option.none
  | _ => Option.none

/-- A set with the characters of some code points besides its own. -/
def withCodes (set : CharSet) (codes : List Nat) : CharSet :=
  ⟨codes.foldl (fun ranges code => insertRange (code, code) ranges) set.ranges⟩

/-- The characters that differ in case only from one in the set. -/
def anyCase (set : CharSet) : CharSet :=
  match set.onlyChar? with
  | some c => set.withCodes (orbitCodes c.toNat)
  | Option.none =>
    let inSet := (casedCodes.filter fun code => set.holds (Char.ofNat code))
    set.withCodes (inSet.flatMap orbitCodes)

/-- The ASCII letters that differ in case only from one in the set, besides the set. -/
def anyAsciiCase (set : CharSet) : CharSet :=
  let letters (first : Char) := (List.range 26).map (first.toNat + ·)
  let other (first target : Char) :=
    ((letters first).filter fun code => set.holds (Char.ofNat code)).map
      (· - first.toNat + target.toNat)
  set.withCodes (other 'a' 'A' ++ other 'A' 'a')

@[simp] theorem holds_none (c : Char) : none.holds c = false := rfl

@[simp] theorem holds_single (a c : Char) : (single a).holds c = decide (c = a) := by
  simp only [single, range, holds, CodeRanges.holds_cons, CodeRanges.holds_nil, Bool.or_false]
  by_cases h : c = a
  · simp [h]
  · have hNe : a.toNat ≠ c.toNat := fun hEq => h (Char.toNat_inj.1 hEq).symm
    simp only [h, decide_false, Bool.and_eq_false_iff, decide_eq_false_iff_not]
    omega

end CharSet

end CratePlan
