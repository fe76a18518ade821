import CratePlan.Identifier

/-!
# Writing a name in a case style

The generated code spells a name in one of four styles: `power_state` for a
module, `PowerState` for a type, `powerState` and `POWER_STATE` for the rest.
A style says how each word is capitalised and what stands between two words.

Not every name can be written. There must be a word, the first must not begin
with a digit, and all characters must be ASCII letters or digits. The test does
not depend on the style, which is only named in the error.
-/

namespace CratePlan

/-- The four ways to spell a name. -/
inductive CaseStyle where
  | snake
  | pascal
  | camel
  | screamingSnake
deriving Repr, DecidableEq, Inhabited

/-- A name that cannot be written in a style, by its label. -/
structure CaseError where
  style : CaseStyle
  text : String
deriving Repr, DecidableEq

namespace CaseStyle

/-- All styles. -/
def all : List CaseStyle := [snake, pascal, camel, screamingSnake]

/-- The name of a style, written in that style. -/
def label : CaseStyle → String
  | snake => "snake_case"
  | pascal => "PascalCase"
  | camel => "camelCase"
  | screamingSnake => "SCREAMING_SNAKE_CASE"

end CaseStyle

namespace Words

/-- The word in small letters. -/
def small (word : String) : List Char :=
  word.toList.map Char.toLower

/-- The word in capitals. -/
def capitals (word : String) : List Char :=
  word.toList.map Char.toUpper

/-- The word with its first letter as a capital and the rest small. -/
def capitalised (word : String) : List Char :=
  match word.toList with
  | [] => []
  | c :: rest => c.toUpper :: rest.map Char.toLower

/-- The words can be written as a name: there is one, the first does not begin
with a digit, and all consist of ASCII letters and digits. -/
def writable (words : Words) : Bool :=
  match words with
  | [] => false
  | first :: _ =>
    !(first.toList.head?.any Char.isDigit) &&
      words.all fun word => word.toList.all Char.isAlphanum

/-- The words in a style, one after the other with underscores where the style
has them. -/
def spelled (words : Words) : CaseStyle → List Char
  | .snake => List.intercalate ['_'] (words.map small)
  | .pascal => (words.map capitalised).flatten
  | .camel =>
    match words with
    | [] => []
    | first :: rest => small first ++ (rest.map capitalised).flatten
  | .screamingSnake => List.intercalate ['_'] (words.map capitals)

end Words

/-- The name in a style, or an error that carries its label. -/
def Identifier.render (identifier : Identifier) (style : CaseStyle) : Except CaseError String :=
  if identifier.words.writable then .ok (String.ofList (identifier.words.spelled style))
  else .error ⟨style, identifier.label⟩

/-- A name is rendered exactly when its words are writable, whatever the style. -/
theorem Identifier.render_eq_ok_iff {identifier : Identifier} {style : CaseStyle} {text : String} :
    identifier.render style = .ok text ↔
      identifier.words.writable = true ∧ text = String.ofList (identifier.words.spelled style) := by
  unfold Identifier.render
  split
  case isTrue h => simpa [h] using eq_comm
  case isFalse h => simp [h]

end CratePlan
