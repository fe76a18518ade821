import CratePlan.Text.CodeRanges

/-!
# Blank characters

The characters of Unicode's `White_Space` property. They separate the words of
a label, and a settings text that holds nothing else counts as absent.

The class is wider than `Char.isWhitespace`, which knows ASCII only:
`isBlank_of_isWhitespace` says that it leaves none of those out.
-/

namespace CratePlan.Text

/-- The code points of `White_Space`. -/
def blankRanges : CodeRanges :=
  [(0x0009, 0x000D), (0x0020, 0x0020), (0x0085, 0x0085), (0x00A0, 0x00A0), (0x1680, 0x1680),
    (0x2000, 0x200A), (0x2028, 0x2029), (0x202F, 0x202F), (0x205F, 0x205F), (0x3000, 0x3000)]

/-- The character has the property `White_Space`. -/
def isBlank (c : Char) : Bool :=
  blankRanges.holds c

/-- Every blank that ASCII knows is blank here. -/
theorem isBlank_of_isWhitespace {c : Char} (h : c.isWhitespace = true) : isBlank c = true := by
  simp only [Char.isWhitespace, Bool.or_eq_true, decide_eq_true_eq] at h
  rcases h with ((rfl | rfl) | rfl) | rfl <;> decide

/-- The text holds blank characters only. -/
def allBlank (text : String) : Bool :=
  text.toList.all isBlank

end CratePlan.Text
