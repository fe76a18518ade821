import CratePlan.Text.WordCharacter

/-!
# Conditions on a place in a text

A pattern may ask for something about the place between two characters that neither
of them is part of: that the text begins or ends there, or a line, or a word.

Words consist of the word characters of all scripts, or of those of ASCII alone. A
half boundary looks at one side of the place only.
-/

namespace CratePlan

/-- The characters that words consist of. -/
inductive Alphabet where
  | unicode
  | ascii
deriving Repr, DecidableEq, Inhabited

namespace Alphabet

open CratePlan.Text

/-- The character may stand inside a word. -/
def holds (alphabet : Alphabet) (c : Char) : Bool :=
  match alphabet with
  | unicode => isWordCharacter c
  | ascii => c.isAlphanum || c == '_'

end Alphabet

/-- A condition on the place between two characters. -/
inductive Boundary where
  | textStart
  | textEnd
  | lineStart
  | lineEnd
  /-- A line starts, where a carriage return ends lines as well. -/
  | returnLineStart
  /-- A line ends, where a carriage return ends lines as well. -/
  | returnLineEnd
  | word (alphabet : Alphabet)
  | notWord (alphabet : Alphabet)
  | wordStart (alphabet : Alphabet)
  | wordEnd (alphabet : Alphabet)
  | wordStartHalf (alphabet : Alphabet)
  | wordEndHalf (alphabet : Alphabet)
deriving Repr, DecidableEq, Inhabited

namespace Boundary

/-- The condition is met between the character `before` and the character `after`. -/
def holds (boundary : Boundary) (before after : Option Char) : Bool :=
  match boundary with
  | textStart => before.isNone
  | textEnd => after.isNone
  | lineStart => before.all (· == '\n')
  | lineEnd => after.all (· == '\n')
  | returnLineStart =>
    before.all fun c => c == '\n' || (c == '\r' && after != some '\n')
  | returnLineEnd =>
    after.all fun c => c == '\r' || (c == '\n' && before != some '\r')
  | word alphabet => before.any alphabet.holds != after.any alphabet.holds
  | notWord alphabet => before.any alphabet.holds == after.any alphabet.holds
  | wordStart alphabet => !before.any alphabet.holds && after.any alphabet.holds
  | wordEnd alphabet => before.any alphabet.holds && !after.any alphabet.holds
  | wordStartHalf alphabet => !before.any alphabet.holds
  | wordEndHalf alphabet => !after.any alphabet.holds

end Boundary

end CratePlan
