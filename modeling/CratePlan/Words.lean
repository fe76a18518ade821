import CratePlan.Text.Blank
import CratePlan.Text.Lowercase

/-!
# The words of a label

Schemas, path segments and modules are labelled in several spellings of one name:
`PowerState`, `power_state` and `power-state` are the same two words. This module
finds the words of a label and keeps them in lowercase, so that two spellings of
a name compare equal.

A word ends at a separator (underscore, hyphen or blank) and where a capital
begins the next one. A capital begins a word after a small letter or a digit; in
a run of capitals only the last one does, and only when a small letter follows it:
`HTTPServer` is `http`, `server`. Letters beyond ASCII never begin a word.

The cut is made on the label as it is spelled. Lowercase comes last, word by word.

## Main statements

* `pieces_ne_nil`: no piece of a label is empty.
* `flatten_pieces`: put together, the pieces are the label without its separators.
-/

namespace CratePlan

/-- The words of a name, in order and in lowercase. Two names are the same when
their words are. -/
abbrev Words := List String

namespace Words

open CratePlan.Text

/-- The character stands between words and belongs to none. -/
def isSeparator (c : Char) : Bool :=
  c == '_' || c == '-' || isBlank c

/-- `c` begins a word, coming after `last` in the same run and before `rest`. -/
def beginsWord (last c : Char) (rest : List Char) : Bool :=
  c.isUpper &&
    (last.isLower || last.isDigit || (last.isUpper && rest.head?.any Char.isLower))

/-- A word that has ended, kept unless it is empty; its characters are given
nearest first. -/
def finish (current : List Char) : List (List Char) :=
  if current.isEmpty then [] else [current.reverse]

/-- The pieces of a label, when the characters `current` (nearest first) of the
present word have been read and the others are still to come. -/
def piecesFrom (current : List Char) : List Char → List (List Char)
  | [] => finish current
  | c :: rest =>
    if isSeparator c then finish current ++ piecesFrom [] rest
    else if current.head?.any (beginsWord · c rest) then
      finish current ++ piecesFrom [c] rest
    else piecesFrom (c :: current) rest

/-- The pieces of a label, spelled as in the label. -/
def pieces (label : List Char) : List (List Char) :=
  piecesFrom [] label

/-- The lowercase form of a piece, as a word. -/
def lowered (piece : List Char) : String :=
  String.ofList (lowercase piece)

/-- The words of a label. -/
def ofLabel (label : String) : Words :=
  (pieces label.toList).map lowered

/-- Words that are split already: each in lowercase, empty ones left out. -/
def ofList (words : List String) : Words :=
  (words.map fun word => lowered word.toList).filter fun word => !word.isEmpty

/-- The words joined by underscores. -/
def display (words : Words) : String :=
  String.intercalate "_" words

/-- Names are ordered by their words, and words by their code points. -/
def order (a b : Words) : Ordering :=
  compareOfLessAndEq a b

/-! ## Nothing is lost, and no piece is empty -/

theorem finish_ne_nil {current piece : List Char} (h : piece ∈ finish current) : piece ≠ [] := by
  unfold finish at h
  split at h
  case isTrue => simp at h
  case isFalse hCurrent =>
    simp only [List.mem_singleton] at h
    subst h
    simpa using hCurrent

theorem flatten_finish (current : List Char) : (finish current).flatten = current.reverse := by
  unfold finish
  split
  case isTrue h => simp [List.isEmpty_iff.1 h]
  case isFalse => simp

theorem piecesFrom_ne_nil (label : List Char) :
    ∀ current, ∀ piece ∈ piecesFrom current label, piece ≠ [] := by
  induction label with
  | nil => intro current piece h; exact finish_ne_nil h
  | cons c rest ih =>
      intro current piece h
      unfold piecesFrom at h
      split at h
      case isTrue =>
        rcases List.mem_append.1 h with h | h
        · exact finish_ne_nil h
        · exact ih _ _ h
      case isFalse =>
        split at h
        case isTrue =>
          rcases List.mem_append.1 h with h | h
          · exact finish_ne_nil h
          · exact ih _ _ h
        case isFalse => exact ih _ _ h

/-- No piece of a label is empty. -/
theorem pieces_ne_nil {label piece : List Char} (h : piece ∈ pieces label) : piece ≠ [] :=
  piecesFrom_ne_nil label [] piece h

theorem flatten_piecesFrom (label : List Char) :
    ∀ current, (piecesFrom current label).flatten =
      current.reverse ++ label.filter (fun c => !isSeparator c) := by
  induction label with
  | nil => intro current; simp [piecesFrom, flatten_finish]
  | cons c rest ih =>
      intro current
      unfold piecesFrom
      split
      case isTrue hSep => simp [flatten_finish, ih, hSep]
      case isFalse hSep =>
        split
        case isTrue => simp [flatten_finish, ih, hSep]
        case isFalse => simp [ih, hSep]

/-- Put together, the pieces are the label without its separators. -/
theorem flatten_pieces (label : List Char) :
    (pieces label).flatten = label.filter (fun c => !isSeparator c) := by
  simpa [pieces] using flatten_piecesFrom label []

end Words

end CratePlan
