import CratePlan.Pattern.Class
import CratePlan.Pattern.Room
import CratePlan.Text.Alphabetic

/-!
# Reading a pattern from text

The written form of a pattern. `readPattern?` reads it, or finds that the text is not
a pattern: parentheses or brackets that do not pair, a repetition of nothing, an empty
range, a group name that is missing, malformed or used twice, an escape that stands for
nothing, parts that are nested too deep. Conditions on the text ahead or behind, and
references to what a group holds, are no part of the language.

Flags that are set inside a pair of parentheses hold up to its end, through the
alternatives that follow; those written before a colon hold for that group alone.

Every function returns the text that it has not read. Those that call each other
count down from the length of the text: each step reads at least one character.
-/

namespace CratePlan.Pattern

open CratePlan.Text

/-! ## Bounds of repetitions -/

/-- Read decimal digits, with blanks behind each of them where the flags allow it. -/
def readDigits (flags : Flags) : Nat → List Char → List Char × List Char
  | 0, text => ([], text)
  | n + 1, text =>
    match text with
    | [] => ([], [])
    | c :: rest =>
      if c.isDigit then
        let (digits, rest) := readDigits flags n (flags.skipSpace rest)
        (c :: digits, rest)
      else ([], text)

/-- Leave out blanks, and what the flags leave out behind them. -/
def dropBlanks (flags : Flags) : Nat → List Char → List Char
  | 0, text => text
  | n + 1, text =>
    match text with
    | [] => []
    | c :: rest => if isBlank c then dropBlanks flags n (flags.skipSpace rest) else text

/-- Read a decimal number below `2 ^ 32`, with blanks around it. -/
def readCount? (flags : Flags) (text : List Char) : Option (Nat × List Char) :=
  let text := text.dropWhile isBlank
  let (digits, rest) := readDigits flags text.length text
  let value := digits.foldl (fun n c => n * 10 + (c.toNat - '0'.toNat)) 0
  if digits.isEmpty || value ≥ Nat.pow 2 32 then none
  else some (value, dropBlanks flags rest.length rest)

/-- Read the bounds of a counted repetition, from behind its opening brace. -/
def readBounds? (flags : Flags) (text : List Char) : Option ((Nat × Option Nat) × List Char) := do
  let (least, rest) ← readCount? flags (flags.skipSpace text)
  match rest with
  | '\x7d' :: rest => some ((least, some least), rest)
  | ',' :: rest =>
    match flags.skipSpace rest with
    | '\x7d' :: rest => some ((least, none), rest)
    | rest => do
      let (most, rest) ← readCount? flags rest
      match rest with
      | '\x7d' :: rest => if least ≤ most then some ((least, some most), rest) else none
      | _ => none
  | _ => none

/-! ## Groups -/

/-- What an opening parenthesis begins. -/
inductive Opening where
  /-- A group whose text is kept, under a name if it has one. -/
  | capture (name : Option String)
  /-- A group that only holds its body together, with flags of its own. -/
  | plain (flags : Flags)
  /-- No group: flags for what follows. -/
  | setFlags (flags : Flags)
deriving Repr, DecidableEq, Inhabited

/-- The character may stand in a group name behind the first. -/
def isNameChar (c : Char) : Bool :=
  ['_', '.', '[', ']'].contains c || isAlphanumeric c

/-- A group name is not empty, and begins with an alphabetic character or an
underscore. -/
def isGroupName : List Char → Bool
  | [] => false
  | c :: rest => (c == '_' || isAlphabetic c) && rest.all isNameChar

/-- Read a group name up to its closing bracket. The name must be new. -/
def readGroupName? (names : List String) (text : List Char) : Option (String × List Char) :=
  let name := text.takeWhile (· != '>')
  match text.dropWhile (· != '>') with
  | _ :: rest =>
    if isGroupName name && !(names.contains (String.ofList name)) then
      some (String.ofList name, rest)
    else none
  | [] => none

/-- Read flags up to the colon or parenthesis that ends them. `seen` has the
letters that were set, and `off` says that those to come are turned off. -/
def readFlags? (flags : Flags) (seen : List Char) (off : Bool) :
    List Char → Option (Flags × Char × List Char)
  | [] => none
  | c :: rest =>
    if c == ':' || c == ')' then
      if seen.head? == some '-' then none else some (flags, c, rest)
    else if seen.contains c then none
    else if c == '-' then readFlags? flags (c :: seen) true rest
    else do
      let flags ← flags.set? (!off) c
      readFlags? flags (c :: seen) off rest

/-- Read what an opening parenthesis begins, from behind it. -/
def readOpening? (flags : Flags) (names : List String) (text : List Char) :
    Option (Opening × List Char) :=
  match flags.skipSpace text with
  | '?' :: '=' :: _ => none
  | '?' :: '!' :: _ => none
  | '?' :: '<' :: '=' :: _ => none
  | '?' :: '<' :: '!' :: _ => none
  | '?' :: 'P' :: '<' :: rest =>
    (readGroupName? names rest).map fun (name, rest) => (.capture (some name), rest)
  | '?' :: '<' :: rest =>
    (readGroupName? names rest).map fun (name, rest) => (.capture (some name), rest)
  | '?' :: ')' :: _ => none
  | '?' :: rest =>
    (readFlags? flags [] false rest).map fun (flags, last, rest) =>
      (if last == ':' then .plain flags else .setFlags flags, rest)
  | rest => some (.capture none, rest)

/-! ## The whole pattern -/

/-- A part of a pattern and its height, which is how deep its parts are nested. A part
without a pattern has set flags. -/
structure Part where
  pattern : Option Pattern
  height : Nat
deriving Repr, DecidableEq, Inhabited

namespace Part

/-- A part that has none inside it. -/
def leaf (pattern : Pattern) : Part := ⟨some pattern, 0⟩

/-- Flags that have been set. -/
def setFlags : Part := ⟨none, 0⟩

/-- The height of several parts that are held together; one alone keeps its own. -/
def heightOf (parts : List Part) : Nat :=
  let highest := (parts.map height).foldl max 0
  if parts.length ≤ 1 then highest else highest + 1

/-- Parts in a row, given with the last first. -/
def row (parts : List Part) : Part :=
  ⟨some (sequence (parts.reverse.filterMap pattern)), heightOf parts⟩

/-- Parts as choices, given with the last first. -/
def choices (parts : List Part) : Part :=
  ⟨some (alternatives (parts.reverse.filterMap pattern)), heightOf parts⟩

end Part

/-- The groups that have been read. -/
structure Groups where
  count : Nat
  names : List String
deriving Repr, DecidableEq, Inhabited

/-- A part that has been read, with the groups up to its end. -/
structure Whole where
  part : Part
  groups : Groups
deriving Repr, DecidableEq, Inhabited

/-- Put a repetition around the latest part, which must be a pattern. A question mark
directly behind it makes it reluctant. -/
def repeatLast? (flags : Flags) (bounds : Nat × Option Nat) (parts : List Part)
    (text : List Char) : Option (List Part × List Char) :=
  match parts with
  | ⟨some body, height⟩ :: parts =>
    let reluctant := text.head? == some '?'
    let text := if reluctant then text.tail else text
    let greedy := reluctant == flags.swapGreed
    some (⟨some (times bounds.1 bounds.2 greedy body), height + 1⟩ :: parts, text)
  | _ => none

/-- Read the alternatives up to a closing parenthesis or the end of the text.
`branches` has the alternatives that are complete and `parts` the parts of the present
one, both with the latest first. At most `depth` groups may be nested further. -/
def readBranches? : Nat → (depth : Nat) → Flags → Groups → List Part → List Part → List Char →
    Option (Whole × List Char)
  | 0, _, _, _, _, _, _ => none
  | n + 1, depth, flags, groups, branches, parts, text =>
    let finished : Whole := ⟨.choices (.row parts :: branches), groups⟩
    match flags.skipSpace text with
    | [] => some (finished, [])
    | c :: rest =>
      match c with
      | ')' => some (finished, c :: rest)
      | '|' => readBranches? n depth flags groups (.row parts :: branches) [] rest
      | '(' => do
        let (opening, rest) ← readOpening? flags groups.names rest
        match opening, depth with
        | .setFlags flags, _ =>
          readBranches? n depth flags groups branches (.setFlags :: parts) rest
        | .capture name, inside + 1 =>
          let number := groups.count + 1
          let (body, rest) ←
            readBranches? n inside flags ⟨number, groups.names ++ name.toList⟩ [] [] rest
          match rest with
          | ')' :: rest =>
            let part : Part :=
              ⟨body.part.pattern.map (.group number name), body.part.height + 1⟩
            readBranches? n depth flags body.groups branches (part :: parts) rest
          | _ => none
        | .plain inner, inside + 1 =>
          let (body, rest) ← readBranches? n inside inner groups [] [] rest
          match rest with
          | ')' :: rest =>
            let part : Part := ⟨body.part.pattern, body.part.height + 1⟩
            readBranches? n depth flags body.groups branches (part :: parts) rest
          | _ => none
        | _, 0 => none
      | '[' => do
        let ((set, height), rest) ← readClass? flags rest
        readBranches? n depth flags groups branches (⟨some (ofSet set), height⟩ :: parts) rest
      | '?' => do
        let (parts, rest) ← repeatLast? flags (0, some 1) parts rest
        readBranches? n depth flags groups branches parts rest
      | '*' => do
        let (parts, rest) ← repeatLast? flags (0, none) parts rest
        readBranches? n depth flags groups branches parts rest
      | '+' => do
        let (parts, rest) ← repeatLast? flags (1, none) parts rest
        readBranches? n depth flags groups branches parts rest
      | '\x7b' => do
        let (bounds, rest) ← readBounds? flags rest
        let (parts, rest) ← repeatLast? flags bounds parts (flags.skipSpace rest)
        readBranches? n depth flags groups branches parts rest
      | '\\' => do
        let (escaped, rest) ← readEscape? flags rest
        let pattern ← ofEscaped? flags escaped
        readBranches? n depth flags groups branches (.leaf pattern :: parts) rest
      | '.' => do
        readBranches? n depth flags groups branches (.leaf (← flags.dot?) :: parts) rest
      | '^' =>
        let pattern := Pattern.boundary flags.startBoundary
        readBranches? n depth flags groups branches (.leaf pattern :: parts) rest
      | '$' =>
        let pattern := Pattern.boundary flags.endBoundary
        readBranches? n depth flags groups branches (.leaf pattern :: parts) rest
      | c => readBranches? n depth flags groups branches (.leaf (flags.literal c) :: parts) rest

/-- The pattern that a text writes, if it writes one. -/
def readPattern? (text : List Char) : Option Pattern := do
  let (whole, rest) ← readBranches? (text.length + 1) nestLimit {} ⟨0, []⟩ [] [] text
  if rest.isEmpty && whole.part.height ≤ nestLimit then whole.part.pattern else none

/-- The pattern that a text writes, if it writes one and there is room for it. -/
def ofText? (text : String) : Option Pattern := (readPattern? text.toList).filter fits

end CratePlan.Pattern
