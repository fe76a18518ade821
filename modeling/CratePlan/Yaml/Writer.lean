import CratePlan.Json.Writer
import CratePlan.Yaml.Atom
import CratePlan.Yaml.Cursor
import CratePlan.Yaml.Token

/-!
# Writing YAML

A value is written in block style: each member and each item begins a line, an
inner mapping is two columns further in, and a sequence that is the value of a key
is not. An empty array or object is written in brackets. A key that is long or does
not fit one line is set off by a question mark.

A text is written plain where it reads back as itself. If it would mean something
else, or begins with an indicator, it goes into single quotes; if it holds what
these cannot show, into double quotes. A text of several lines becomes a literal
block.
-/

namespace CratePlan.Yaml

/-! ## The style of a text -/

/-- The character may be written as it is. -/
def isPrintable (c : Char) : Bool :=
  let n := c.toNat
  n == 10 || (32 ≤ n && n ≤ 126) || (160 ≤ n && n ≤ 0xFFFD && n != 0xFEFF) || 0x10000 ≤ n

/-- The characters that cannot begin a plain text. -/
def openingIndicators : List Char :=
  ['#', ',', '[', ']', '\x7b', '\x7d', '&', '*', '!', '|', '>', '\'', '"', '%', '@', '\x60']

/-- The text begins with what cannot begin a plain one. -/
def beginsWithIndicator : List Char → Bool
  | [] => false
  | c :: rest =>
    openingIndicators.contains c ||
      (['?', ':', '-'].contains c && isGap rest.head?) ||
      ['-', '-', '-'].isPrefixOf (c :: rest) || ['.', '.', '.'].isPrefixOf (c :: rest)

/-- Behind the character `before`, the text has what would end a plain one: a colon
with a gap behind it, or a number sign with a gap before it. -/
def hasIndicator (before : Char) : List Char → Bool
  | [] => false
  | c :: rest =>
    (c == ':' && isGap rest.head?) || (c == '#' && isGap (some before)) || hasIndicator c rest

/-- Two characters that stand next to each other satisfy `p` and `q`. -/
def hasPair (p q : Char → Bool) (text : List Char) : Bool :=
  (text.zip text.tail).any fun pair => p pair.1 && q pair.2

/-- The text goes over several lines. -/
def isMultiline (text : List Char) : Bool := text.any isBreak

/-- The text holds what only escapes can show. -/
def needsEscapes (text : List Char) : Bool :=
  text.any (!isPrintable ·) || hasPair (· == ' ') isBreak text

/-- The text may be written plain. -/
def allowsPlain (text : List Char) : Bool :=
  match text with
  | [] => false
  | c :: rest =>
    !(beginsWithIndicator text || hasIndicator c rest || isMultiline text || needsEscapes text ||
      c == ' ' || text.getLast? == some ' ')

/-- The text may be written in single quotes. -/
def allowsSingleQuotes (text : List Char) : Bool :=
  !(needsEscapes text || hasPair isBreak (· == ' ') text)

/-- The text may be written as a block. -/
def allowsBlock (text : List Char) : Bool :=
  !(text.isEmpty || needsEscapes text || text.getLast? == some ' ')

/-- A plain text would be taken for something else. -/
def isAmbiguous (text : List Char) : Bool :=
  Atom.ofPlain (String.ofList text) != .text || Atom.hasNeedlessZero text

/-- The style in which a text is written; `asKey` says that it must fit one line. -/
def styleOf (asKey : Bool) (text : List Char) : ScalarStyle :=
  if text.contains '\n' then
    if allowsBlock text && !asKey then .literal else .doubleQuoted
  else if asKey && isMultiline text then .doubleQuoted
  else if !isAmbiguous text && allowsPlain text then .plain
  else if allowsSingleQuotes text then .singleQuoted
  else .doubleQuoted

/-! ## The text in its style -/

/-- As many blanks. -/
def blanks (n : Nat) : List Char := List.replicate n ' '

/-- The text in single quotes. Lines after the first are indented, and so is the
closing quote if it stands on a line of its own. -/
def singleQuoted (indent : Nat) (text : List Char) : List Char :=
  let inner (before : Option Char) (c : Char) : List Char :=
    (if before.any isBreak && !isBreak c then blanks indent else []) ++
      (if c == '\'' then ['\'', '\''] else [c])
  let befores := none :: text.map some
  let ending := if text.getLast?.any isBreak then blanks indent else []
  '\'' :: (befores.zip text).flatMap (fun pair => inner pair.1 pair.2) ++ ending ++ ['\'']

/-- Hexadecimal digits with capital letters, `width` of them. -/
def hexDigits : Nat → Nat → List Char
  | 0, _ => []
  | width + 1, n => hexDigits width (n / 16) ++ [(Json.hexDigit (n % 16)).toUpper]

/-- Characters that are escaped by one letter. -/
def shortEscapes : List (Char × Char) :=
  [('\x00', '0'), ('\x07', 'a'), ('\x08', 'b'), ('\t', 't'), ('\n', 'n'), ('\x0b', 'v'),
    ('\x0c', 'f'), ('\r', 'r'), ('\x1b', 'e'), ('"', '"'), ('\\', '\\'), ('\u0085', 'N'),
    ('\u00a0', '_'), ('\u2028', 'L'), ('\u2029', 'P')]

/-- A character inside double quotes. -/
def escapeChar (c : Char) : List Char :=
  if isPrintable c && !isBreak c && c != '"' && c != '\\' then [c]
  else
    match shortEscapes.lookup c with
    | some letter => ['\\', letter]
    | none =>
      if c.toNat ≤ 0xFF then '\\' :: 'x' :: hexDigits 2 c.toNat
      else '\\' :: 'u' :: hexDigits 4 c.toNat

/-- The text in double quotes. -/
def doubleQuoted (text : List Char) : List Char :=
  '"' :: text.flatMap escapeChar ++ ['"']

/-- The indicators of a literal block: its indent, if the text begins with a blank
or a line break, and what to do with the line breaks at its end. -/
def literalHeader (text : List Char) : List Char :=
  let indent := if text.head?.any fun c => c == ' ' || isBreak c then ['2'] else []
  let chomping :=
    match text.reverse with
    | [] => ['-']
    | last :: before =>
      if !isBreak last then ['-']
      else
        match before with
        | [] => ['+']
        | c :: _ => if isBreak c then ['+'] else []
  '|' :: indent ++ chomping

/-- The text as a literal block with an indent, up to and with its last line break. -/
def literalBlock (indent : Nat) (text : List Char) : List Char :=
  let inner (before c : Char) : List Char :=
    (if isBreak before && !isBreak c then blanks indent else []) ++ [c]
  let befores := '\n' :: text
  literalHeader text ++ '\n' :: (befores.zip text).flatMap (fun pair => inner pair.1 pair.2) ++
    (if text.getLast?.any isBreak then [] else ['\n'])

/-- A text in its style on a line of its own, with an indent for further lines. -/
def textLine (indent : Nat) (text : String) : String :=
  let chars := text.toList
  String.ofList <|
    match styleOf false chars with
    | .plain => chars ++ ['\n']
    | .singleQuoted => singleQuoted indent chars ++ ['\n']
    | .literal => literalBlock indent chars
    | _ => doubleQuoted chars ++ ['\n']

/-- A text as a key that fits one line. -/
def keyText (text : String) : String :=
  let chars := text.toList
  String.ofList <|
    match styleOf true chars with
    | .plain => chars
    | .singleQuoted => singleQuoted 0 chars
    | _ => doubleQuoted chars

/-- The key fits one line: it has no line break and at most 128 bytes. -/
def isShortKey (text : String) : Bool :=
  !isMultiline text.toList && text.utf8ByteSize ≤ 128

/-- As many blanks, as a text. -/
def margin (n : Nat) : String := String.ofList (blanks n)

mutual

/-- A value on the line of a hyphen or question mark whose block has an indent. -/
def inlineText (indent : Nat) : Json → String
  | .null => "null\n"
  | .bool value => (if value then "true" else "false") ++ "\n"
  | .integer value => toString value ++ "\n"
  | .decimal value => value.text ++ "\n"
  | .string text => textLine (indent + 2) text
  | .array [] => "[]\n"
  | .array (item :: items) => itemsText (indent + 2) (item :: items)
  | .object [] => "\x7b\x7d\n"
  | .object (member :: members) => membersText (indent + 2) (member :: members)

/-- A value behind the colon of a key whose block has an indent. -/
def valueText (indent : Nat) : Json → String
  | .null => " null\n"
  | .bool value => " " ++ (if value then "true" else "false") ++ "\n"
  | .integer value => " " ++ toString value ++ "\n"
  | .decimal value => " " ++ value.text ++ "\n"
  | .string text => " " ++ textLine (indent + 2) text
  | .array [] => " []\n"
  | .array (item :: items) => "\n" ++ margin indent ++ itemsText indent (item :: items)
  | .object [] => " \x7b\x7d\n"
  | .object (member :: members) =>
    "\n" ++ margin (indent + 2) ++ membersText (indent + 2) (member :: members)

/-- The items of a sequence. The first stands where the writer is, each of the others
on a line of its own. -/
def itemsText (indent : Nat) : List Json → String
  | [] => ""
  | item :: rest =>
    "- " ++ inlineText indent item ++
      (if rest.isEmpty then "" else margin indent ++ itemsText indent rest)

/-- The members of a mapping, in the same way. -/
def membersText (indent : Nat) : List (String × Json) → String
  | [] => ""
  | (key, value) :: rest =>
    (if isShortKey key then keyText key ++ ":" ++ valueText indent value
      else "? " ++ textLine (indent + 2) key ++ margin indent ++ ": " ++ inlineText indent value) ++
      (if rest.isEmpty then "" else margin indent ++ membersText indent rest)

end

/-- A value as a document. -/
def render : Json → String
  | .object (member :: members) => membersText 0 (member :: members)
  | .array (item :: items) => itemsText 0 (item :: items)
  | value => inlineText 0 value

end CratePlan.Yaml
