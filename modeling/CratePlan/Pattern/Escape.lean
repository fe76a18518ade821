import CratePlan.Pattern.Flags
import CratePlan.Pattern.Property

/-!
# Escapes of a written pattern

What a backslash and the characters behind it stand for: a character, given by itself,
by a letter or by its number, a set of characters, by a letter or by a property, or a
condition.
-/

namespace CratePlan.Pattern

/-- What an escape stands for. -/
inductive Escaped where
  | char (c : Char)
  /-- A character that is given by two hexadecimal digits. -/
  | byte (c : Char)
  | set (set : CharSet)
  | boundary (condition : Boundary)
deriving Repr, DecidableEq, Inhabited

/-- The value of a hexadecimal digit. -/
def hexValue? (c : Char) : Option Nat :=
  if c.isDigit then some (c.toNat - '0'.toNat)
  else if 'a' ≤ c ∧ c ≤ 'f' then some (c.toNat - 'a'.toNat + 10)
  else if 'A' ≤ c ∧ c ≤ 'F' then some (c.toNat - 'A'.toNat + 10)
  else none

/-- The character with a code point, given in hexadecimal digits. -/
def charOfHex? (digits : List Char) : Option Char := do
  if digits.isEmpty then none
  let n ← digits.foldlM (fun n c => (hexValue? c).map (n * 16 + ·)) 0
  if n.isValidChar then some (Char.ofNat n) else none

/-- Read so many characters, with blanks between them where the flags allow it. -/
def readSpread? (flags : Flags) : Nat → List Char → Option (List Char × List Char)
  | 0, text => some ([], text)
  | n + 1, text =>
    match flags.skipSpace text with
    | [] => none
    | c :: rest => (readSpread? flags n rest).map fun (read, rest) => (c :: read, rest)

/-- Read the characters up to a closing brace, with blanks between them where the flags
allow it. The steps are bounded by the length of the text. -/
def readToBrace? (flags : Flags) : Nat → List Char → Option (List Char × List Char)
  | 0, _ => none
  | n + 1, text =>
    match flags.skipSpace text with
    | [] => none
    | '\x7d' :: rest => some ([], rest)
    | c :: rest => (readToBrace? flags n rest).map fun (read, rest) => (c :: read, rest)

/-- The character of an escape with hexadecimal digits: `width` of them, or any
number in braces. -/
def readHex? (flags : Flags) (width : Nat) (text : List Char) : Option (Escaped × List Char) :=
  match flags.skipSpace text with
  | '\x7b' :: rest => do
    let (digits, rest) ← readToBrace? flags (rest.length + 1) rest
    return (.char (← charOfHex? digits), rest)
  | text => do
    let (digits, rest) ← readSpread? flags width text
    let c ← charOfHex? digits
    return (if width == 2 then .byte c else .char c, rest)

/-- Read the set of an escape with a property: a letter, or a query in braces. The
characters of all scripts must be in use. -/
def readProperty? (flags : Flags) (negated : Bool) (text : List Char) :
    Option (Escaped × List Char) := do
  if !flags.unicode then none
  let (query, rest) ←
    match flags.skipSpace text with
    | '\x7b' :: rest => readToBrace? flags (rest.length + 1) rest
    | c :: rest => if c == '\\' then none else some ([c], rest)
    | [] => none
  let set := flags.folded (← CharSet.ofQuery? query)
  return (.set (if negated then set.complement else set), rest)

/-- The characters of the words that name a condition. -/
def isConditionChar (c : Char) : Bool := c.isAlpha || c == '-'

/-- The conditions that are named in braces. -/
def namedCondition? (alphabet : Alphabet) : String → Option Boundary
  | "start" => some (.wordStart alphabet)
  | "end" => some (.wordEnd alphabet)
  | "start-half" => some (.wordStartHalf alphabet)
  | "end-half" => some (.wordEndHalf alphabet)
  | _ => none

/-- Read a condition on words, from behind its letter. A name in braces may follow; if
what is in the braces cannot be a name, they are a repetition. -/
def readWordCondition? (flags : Flags) (text : List Char) : Option (Escaped × List Char) :=
  match text with
  | '\x7b' :: rest =>
    match flags.skipSpace rest with
    | [] => none
    | c :: _ =>
      if isConditionChar c then do
        let (name, rest) ← readToBrace? flags (rest.length + 1) rest
        return (.boundary (← namedCondition? flags.alphabet (String.ofList name)), rest)
      else some (.boundary (.word flags.alphabet), text)
  | _ => some (.boundary (.word flags.alphabet), text)

/-- An ASCII character that has no meaning of its own after a backslash stands for
itself there, unless it is a letter, a digit or an angle bracket. -/
def standsForItself (c : Char) : Bool :=
  c.toNat < 128 && !c.isAlphanum && c != '<' && c != '>'

/-- Read an escape, from behind its backslash. -/
def readEscape? (flags : Flags) : List Char → Option (Escaped × List Char)
  | [] => none
  | c :: rest =>
    match c with
    | 'd' => some (.set flags.digits, rest)
    | 'D' => (flags.negated? flags.digits).map fun set => (.set set, rest)
    | 's' => some (.set flags.blanks, rest)
    | 'S' => (flags.negated? flags.blanks).map fun set => (.set set, rest)
    | 'w' => some (.set flags.wordCharacters, rest)
    | 'W' => (flags.negated? flags.wordCharacters).map fun set => (.set set, rest)
    | 'p' => readProperty? flags false rest
    | 'P' => readProperty? flags true rest
    | 'b' => readWordCondition? flags rest
    | 'B' => some (.boundary (.notWord flags.alphabet), rest)
    | 'A' => some (.boundary .textStart, rest)
    | 'z' => some (.boundary .textEnd, rest)
    | '<' => some (.boundary (.wordStart flags.alphabet), rest)
    | '>' => some (.boundary (.wordEnd flags.alphabet), rest)
    | 'a' => some (.char '\x07', rest)
    | 'f' => some (.char '\x0c', rest)
    | 't' => some (.char '\t', rest)
    | 'n' => some (.char '\n', rest)
    | 'r' => some (.char '\r', rest)
    | 'v' => some (.char '\x0b', rest)
    | 'x' => readHex? flags 2 rest
    | 'u' => readHex? flags 4 rest
    | 'U' => readHex? flags 8 rest
    | _ => if standsForItself c then some (.char c, rest) else none

/-- The pattern of an escape outside a class. Where characters are those of ASCII, a
byte beyond them is none. -/
def ofEscaped? (flags : Flags) : Escaped → Option Pattern
  | .char c => some (flags.literal c)
  | .byte c => if flags.unicode || c.toNat < 128 then some (flags.literal c) else none
  | .set set => some (.ofSet set)
  | .boundary condition => some (.boundary condition)

end CratePlan.Pattern
