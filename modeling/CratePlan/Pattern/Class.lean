import CratePlan.Pattern.Escape

/-!
# Classes of a written pattern

A class in brackets holds characters, ranges of them, sets that are named, and other
classes; two classes may be combined by an operator. A class has a *height*, which is
how deep its parts are nested: several items next to each other, an operator and the
brackets of a class inside it are one step each.
-/

namespace CratePlan.Pattern

open CratePlan.Text

/-- How deep the parts of a pattern may be nested. -/
def nestLimit : Nat := 250

/-- The sets of ASCII characters that are named inside a class. -/
def namedSets : List (String × List (Char × Char)) :=
  [("alnum", [('0', '9'), ('A', 'Z'), ('a', 'z')]),
    ("alpha", [('A', 'Z'), ('a', 'z')]),
    ("ascii", [('\x00', '\x7f')]),
    ("blank", [('\t', '\t'), (' ', ' ')]),
    ("cntrl", [('\x00', '\x1f'), ('\x7f', '\x7f')]),
    ("digit", [('0', '9')]),
    ("graph", [('!', '~')]),
    ("lower", [('a', 'z')]),
    ("print", [(' ', '~')]),
    ("punct", [('!', '/'), (':', '@'), ('[', '\x60'), ('\x7b', '~')]),
    ("space", [('\t', '\r'), (' ', ' ')]),
    ("upper", [('A', 'Z')]),
    ("word", [('0', '9'), ('A', 'Z'), ('_', '_'), ('a', 'z')]),
    ("xdigit", [('0', '9'), ('A', 'F'), ('a', 'f')])]

/-- What may stand behind a bracket inside a class. -/
inductive NamedSet where
  /-- It is no named set. -/
  | other
  /-- A named set. It has no characters to give if its negation is refused. -/
  | found (set : Option CharSet) (rest : List Char)
deriving Repr, DecidableEq, Inhabited

/-- Read a named set of a class, from behind its bracket. -/
def readNamedSet (flags : Flags) : List Char → NamedSet
  | ':' :: text =>
    let negated := text.head? == some '^'
    let text := if negated then text.tail else text
    let name := String.ofList (text.takeWhile (· != ':'))
    match text.dropWhile (· != ':'), namedSets.lookup name with
    | ':' :: ']' :: rest, some ranges =>
      let set := flags.folded (.ofRanges ranges)
      .found (if negated then flags.negated? set else some set) rest
    | _, _ => .other
  | _ => .other

/-- How the sets of a class are combined. -/
inductive ClassOperator where
  | inter
  | minus
  | symmetricMinus
deriving Repr, DecidableEq, Inhabited

/-- The set that an operator makes of two. -/
def ClassOperator.apply (operator : ClassOperator) (left right : CharSet) : CharSet :=
  match operator with
  | inter => left.inter right
  | minus => left.minus right
  | symmetricMinus => left.symmetricMinus right

/-- Items of a class next to each other: the characters that they hold together, how
many they are, and how high the highest is. -/
structure ClassItems where
  set : CharSet
  count : Nat
  highest : Nat
deriving Repr, DecidableEq, Inhabited

namespace ClassItems

/-- No items. -/
def none : ClassItems := ⟨.none, 0, 0⟩

/-- One item more. -/
def add (items : ClassItems) (set : CharSet) (height : Nat) : ClassItems :=
  ⟨items.set.union set, items.count + 1, max items.highest height⟩

/-- The height of the items together. -/
def height (items : ClassItems) : Nat :=
  if items.count ≤ 1 then items.highest else items.highest + 1

end ClassItems

/-- What stands to the left of an operator. -/
structure ClassLeft where
  set : CharSet
  height : Nat
  operator : ClassOperator
deriving Repr, DecidableEq, Inhabited

/-- The set to the left of an operator, if there is one, together with the items to its
right, and their height. -/
def combine (flags : Flags) (left : Option ClassLeft) (items : ClassItems) : CharSet × Nat :=
  match left with
  | none => (items.set, items.height)
  | some left =>
    (left.operator.apply (flags.folded left.set) (flags.folded items.set),
      max left.height items.height + 1)

/-- What stands to the left of a further operator. -/
def leftOf (flags : Flags) (left : Option ClassLeft) (items : ClassItems)
    (operator : ClassOperator) : Option ClassLeft :=
  let (set, height) := combine flags left items
  some ⟨set, height, operator⟩

/-- Read one item of a class: a character, or an escape that is no condition. -/
def readClassItem? (flags : Flags) : List Char → Option (Escaped × List Char)
  | [] => none
  | '\\' :: rest =>
    match readEscape? flags rest with
    | some (.boundary _, _) => none
    | item => item
  | c :: rest => some (.char c, rest)

/-- The character of an item. Where characters are those of ASCII, one beyond them is
refused where it stands, whether it is given as a byte or not: an operator or a negation
further on cannot make up for it. -/
def charOfItem? (flags : Flags) : Escaped → Option Char
  | .char c | .byte c => if flags.unicode || c.toNat < 128 then some c else none
  | _ => none

/-- The character that tells whether a hyphen before a text begins a range: the next
one. Where blanks are left out, so is the mark of a comment, but not its text. -/
def behindHyphen? (flags : Flags) (text : List Char) : Option Char :=
  if flags.spaced then
    match text.dropWhile isBlank with
    | '#' :: rest => (rest.dropWhile isBlank).head?
    | rest => rest.head?
  else text.head?

/-- Read an item of a class, or a range from one item to another. -/
def readClassRange? (flags : Flags) (text : List Char) : Option (CharSet × List Char) := do
  let (first, rest) ← readClassItem? flags text
  let rest := flags.skipSpace rest
  let next := behindHyphen? flags rest.tail
  if rest.head? == some '-' && next != some ']' && next != some '-' then
    let (last, rest) ← readClassItem? flags (flags.skipSpace rest.tail)
    let first ← charOfItem? flags first
    let last ← charOfItem? flags last
    if first ≤ last then some (.range first last, rest) else none
  else
    match first with
    | .set set => some (set, rest)
    | item => (charOfItem? flags item).map fun c => (.single c, rest)

/-- Read hyphens that stand for themselves at the start of a class. -/
def readHyphens (flags : Flags) : Nat → ClassItems → List Char → ClassItems × List Char
  | 0, items, text => (items, text)
  | n + 1, items, text =>
    match text with
    | '-' :: rest => readHyphens flags n (items.add (.single '-') 0) (flags.skipSpace rest)
    | _ => (items, text)

/-- Read the start of a class, from behind its bracket: whether it is negated, and
the characters that would mean something else further on. -/
def readClassStart (flags : Flags) (text : List Char) : Bool × ClassItems × List Char :=
  let text := flags.skipSpace text
  let negated := text.head? == some '^'
  let text := if negated then flags.skipSpace text.tail else text
  let (items, text) := readHyphens flags text.length .none text
  if items.count == 0 && text.head? == some ']' then
    (negated, items.add (.single ']') 0, text.tail)
  else (negated, items, text)

/-- A class when its bracket has closed. Where characters are those of ASCII, it holds
no others. -/
def closeClass? (flags : Flags) (negated : Bool) (set : CharSet) : Option CharSet :=
  let set := flags.folded set
  if negated then flags.negated? set
  else if flags.unicode || set.isAscii then some set
  else none

/-- Read the rest of a class, of which `items` stand to the right of the latest
operator. The answer has the set and its height. At most `depth` classes may be nested
further. -/
def readClassRest? (flags : Flags) : Nat → (depth : Nat) → (negated : Bool) → Option ClassLeft →
    ClassItems → List Char → Option ((CharSet × Nat) × List Char)
  | 0, _, _, _, _, _ => none
  | n + 1, depth, negated, left, items, text =>
    match flags.skipSpace text with
    | [] => none
    | ']' :: rest => do
      let (set, height) := combine flags left items
      return ((← closeClass? flags negated set, height), rest)
    | '[' :: rest =>
      match readNamedSet flags rest with
      | .found set rest => do
        readClassRest? flags n depth negated left (items.add (← set) 0) rest
      | .other =>
        match depth with
        | 0 => none
        | inside + 1 => do
          let (negatedInside, start, rest) := readClassStart flags rest
          let ((set, height), rest) ← readClassRest? flags n inside negatedInside none start rest
          readClassRest? flags n depth negated left (items.add set (height + 1)) rest
    | '&' :: '&' :: rest =>
      readClassRest? flags n depth negated (leftOf flags left items .inter) .none rest
    | '-' :: '-' :: rest =>
      readClassRest? flags n depth negated (leftOf flags left items .minus) .none rest
    | '~' :: '~' :: rest =>
      readClassRest? flags n depth negated (leftOf flags left items .symmetricMinus) .none rest
    | text => do
      let (set, rest) ← readClassRange? flags text
      readClassRest? flags n depth negated left (items.add set 0) rest

/-- Read a class, from behind its bracket. The answer has the set and its height. -/
def readClass? (flags : Flags) (text : List Char) : Option ((CharSet × Nat) × List Char) := do
  let (negated, start, rest) := readClassStart flags text
  let ((set, height), rest) ←
    readClassRest? flags (text.length + 1) nestLimit negated none start rest
  return ((set, height + 1), rest)

end CratePlan.Pattern
