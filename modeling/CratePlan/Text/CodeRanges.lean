/-!
# Tables of code points

Character classes that reach beyond ASCII are data of the Unicode standard, and
the data has one shape: closed intervals of code points, in increasing order.
This module holds that shape and the one question that is put to it, whether a
character lies in one of the intervals.

Case mappings have a second shape, a `CaseShift`: a run of code points, every
one or every other one, that is moved as a block. Two questions are put to it:
where a code point goes, and which code point of the run goes to a given place.
-/

namespace CratePlan.Text

/-- Closed intervals of code points, each given by its first and its last. -/
abbrev CodeRanges := List (Nat × Nat)

/-- The character lies in one of the intervals. -/
def CodeRanges.holds (ranges : CodeRanges) (c : Char) : Bool :=
  ranges.any fun range => range.1 ≤ c.toNat && c.toNat ≤ range.2

@[simp] theorem CodeRanges.holds_nil (c : Char) : CodeRanges.holds [] c = false := rfl

@[simp] theorem CodeRanges.holds_cons (range : Nat × Nat) (ranges : CodeRanges) (c : Char) :
    CodeRanges.holds (range :: ranges) c =
      ((decide (range.1 ≤ c.toNat) && decide (c.toNat ≤ range.2)) ||
        CodeRanges.holds ranges c) := rfl

/-- Every other code point of each interval, its first included. -/
def CodeRanges.everyOther (ranges : CodeRanges) : CodeRanges :=
  ranges.flatMap fun range =>
    (List.range ((range.2 - range.1) / 2 + 1)).map fun n =>
      (range.1 + 2 * n, range.1 + 2 * n)

/-- A run of code points from `first` to `last` in steps of `step`, moved as a
block so that `first` lands on `target`. -/
structure CaseShift where
  first : Nat
  last : Nat
  step : Nat
  target : Nat
deriving Repr, DecidableEq

namespace CaseShift

/-- The code point is one of the run. -/
def covers (shift : CaseShift) (n : Nat) : Bool :=
  shift.first ≤ n && n ≤ shift.last && (n - shift.first) % shift.step == 0

/-- Where a code point of the run goes. -/
def image (shift : CaseShift) (n : Nat) : Nat :=
  shift.target + (n - shift.first)

/-- The code point of the run that goes to `n`, if there is one. -/
def preimage (shift : CaseShift) (n : Nat) : Option Nat :=
  let source := shift.first + (n - shift.target)
  if shift.target ≤ n ∧ shift.covers source then some source else none

/-- A preimage is a code point of the run whose image is the one asked for. -/
theorem image_of_preimage {shift : CaseShift} {n source : Nat}
    (h : shift.preimage n = some source) :
    shift.covers source = true ∧ shift.image source = n := by
  unfold preimage at h
  simp only [Option.ite_none_right_eq_some, Option.some.injEq] at h
  obtain ⟨⟨hLe, hCovers⟩, rfl⟩ := h
  refine ⟨hCovers, ?_⟩
  simp only [image]
  omega

end CaseShift

end CratePlan.Text
