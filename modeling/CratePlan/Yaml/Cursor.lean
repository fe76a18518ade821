/-!
# A place in a YAML text

Indentation carries meaning in YAML, so a place in a text is known by its line and
column as well as by the text that is left. This module has the places, the classes
of characters that the language is built on, and the steps from one place to a
later one: over characters of one line, or over a line break.

Five characters break a line, and a carriage return with a line feed is one break.
A break reads as a line feed, but for the two separators of Unicode, which read as
themselves.
-/

namespace CratePlan.Yaml

/-- The character breaks a line. -/
def isBreak (c : Char) : Bool :=
  c == '\n' || c == '\r' || c == '\u0085' || c == '\u2028' || c == '\u2029'

/-- The character is a blank or a tab. -/
def isSpace (c : Char) : Bool :=
  c == ' ' || c == '\t'

/-- There is no character, or it is a blank, a tab or a line break. -/
def isGap (c : Option Char) : Bool :=
  c.all fun c => isSpace c || isBreak c

/-- There is no character, or it breaks a line. -/
def endsLine (c : Option Char) : Bool :=
  c.all isBreak

/-- The character may stand in the name of an anchor or of a directive. -/
def isNameChar (c : Char) : Bool :=
  c.isAlphanum || c == '_' || c == '-'

/-- The character may occur in a text at all. -/
def isAllowed (c : Char) : Bool :=
  let n := c.toNat
  n == 9 || n == 10 || n == 13 || (32 ≤ n && n ≤ 126) || n == 133 ||
    (160 ≤ n && n ≤ 0xFFFD) || 0x10000 ≤ n

/-- A place: the text behind it, and how many characters and lines lie before it. -/
structure Cursor where
  rest : List Char
  index : Nat
  line : Nat
  column : Nat
deriving Repr, DecidableEq, Inhabited

namespace Cursor

/-- The start of a text. -/
def start (text : List Char) : Cursor := ⟨text, 0, 0, 0⟩

/-- The character `n` places on. -/
def peek (cursor : Cursor) (n : Nat) : Option Char := cursor.rest[n]?

/-- The next character. -/
def head? (cursor : Cursor) : Option Char := cursor.rest.head?

/-- Step over `n` characters of a line. -/
def advance (cursor : Cursor) (n : Nat) : Cursor :=
  ⟨cursor.rest.drop n, cursor.index + n, cursor.line, cursor.column + n⟩

/-- The characters up to the first that does not satisfy `p`, and the place there. -/
def takeWhile (cursor : Cursor) (p : Char → Bool) : List Char × Cursor :=
  let taken := cursor.rest.takeWhile p
  (taken, cursor.advance taken.length)

/-- The place behind the characters that satisfy `p`. -/
def skipWhile (cursor : Cursor) (p : Char → Bool) : Cursor :=
  (cursor.takeWhile p).2

/-- Step over a line break, and give what it reads as. Where there is no break,
nothing is read. -/
def readBreak (cursor : Cursor) : List Char × Cursor :=
  match cursor.rest with
  | '\r' :: '\n' :: rest => (['\n'], ⟨rest, cursor.index + 2, cursor.line + 1, 0⟩)
  | c :: rest =>
    if isBreak c then
      let text := if c == '\u2028' || c == '\u2029' then c else '\n'
      ([text], ⟨rest, cursor.index + 1, cursor.line + 1, 0⟩)
    else ([], cursor)
  | [] => ([], cursor)

/-- A mark of three characters stands at the start of a line, with a gap behind it. -/
def isAtMark (cursor : Cursor) (c : Char) : Bool :=
  cursor.column == 0 && cursor.peek 0 == some c && cursor.peek 1 == some c &&
    cursor.peek 2 == some c && isGap (cursor.peek 3)

/-- A mark that begins or ends a document stands here. -/
def isAtDocumentMark (cursor : Cursor) : Bool :=
  cursor.isAtMark '-' || cursor.isAtMark '.'

end Cursor

end CratePlan.Yaml
