import CratePlan.Words

/-!
# Identifiers

An identifier is a label together with its words. The words are what it names;
the label is kept because a name that cannot be written in the target language
is reported in its own spelling.
-/

namespace CratePlan

/-- A label and the words found in it. -/
structure Identifier where
  label : String
  words : Words
deriving Repr, DecidableEq, Inhabited

namespace Identifier

/-- The identifier that a label spells. -/
def ofLabel (label : String) : Identifier :=
  ⟨label, Words.ofLabel label⟩

/-- The identifier of words that are split already. Its label is their display. -/
def ofWords (words : List String) : Identifier :=
  ⟨Words.display (Words.ofList words), Words.ofList words⟩

/-- The words joined by underscores, whether or not that is a legal name. -/
def display (identifier : Identifier) : String :=
  identifier.words.display

end Identifier

end CratePlan
