import CratePlan.Yaml.Cursor
import CratePlan.Yaml.Token

/-!
# Reading scalars

A scalar is written plain, in quotes, or as a block of indented lines. All three
may go on over several lines, and all but the literal block fold them: one line
break reads as a blank, and of several the first is left out.

Every loop here counts down from the length of the text that is left, since each
of its rounds reads at least one character.
-/

namespace CratePlan.Yaml

/-! ## Blanks and line breaks between the parts of a scalar -/

/-- What stands between two parts of a scalar. -/
structure Gap where
  /-- A line break has been read, or escaped. -/
  broken : Bool
  /-- Blanks and tabs before the first line break. -/
  spaces : List Char
  firstBreak : List Char
  moreBreaks : List Char
deriving Repr, DecidableEq, Inhabited

namespace Gap

/-- Nothing read yet. -/
def empty : Gap := ⟨false, [], [], []⟩

/-- Nothing read yet, behind a line break that was escaped. -/
def escaped : Gap := ⟨true, [], [], []⟩

/-- What the gap reads as: blanks within a line as they are, line breaks folded. -/
def text (gap : Gap) : List Char :=
  if gap.broken then
    if gap.firstBreak == ['\n'] then
      if gap.moreBreaks.isEmpty then [' '] else gap.moreBreaks
    else gap.firstBreak ++ gap.moreBreaks
  else gap.spaces

/-- Read blanks and line breaks. A tab may not stand to the left of the column
`least` at the start of a line. -/
def read? (least : Int) : Nat → Gap → Cursor → Option (Gap × Cursor)
  | 0, gap, cursor => some (gap, cursor)
  | n + 1, gap, cursor =>
    match cursor.head? with
    | none => some (gap, cursor)
    | some c =>
      if isSpace c then
        if gap.broken then
          if c == '\t' && decide ((cursor.column : Int) < least) then none
          else read? least n gap (cursor.advance 1)
        else read? least n { gap with spaces := gap.spaces ++ [c] } (cursor.advance 1)
      else if isBreak c then
        let (text, next) := cursor.readBreak
        if gap.broken then read? least n { gap with moreBreaks := gap.moreBreaks ++ text } next
        else read? least n { gap with broken := true, spaces := [], firstBreak := text } next
      else some (gap, cursor)

end Gap

/-! ## Plain scalars -/

/-- The characters that open, close and separate in brackets. -/
def flowIndicators : List Char := [',', '[', ']', '\x7b', '\x7d']

/-- The part of a plain scalar at the start of a text, up to a gap or to a
character that ends the scalar. In brackets, a colon directly before an indicator
is an error. -/
def plainPart? (inFlow : Bool) : List Char → Option (List Char)
  | [] => some []
  | c :: rest =>
    if isGap (some c) then some []
    else if inFlow && c == ':' && rest.head?.any ('?' :: flowIndicators).contains then none
    else if c == ':' && isGap rest.head? then some []
    else if inFlow && flowIndicators.contains c then some []
    else (plainPart? inFlow rest).map (c :: ·)

/-- Read the rest of a plain scalar, of which `text` and the gap have been read. In
a block, lines to the left of the column `least` do not belong to it. The answer
says whether it ended behind a line break. -/
def readPlain? (inFlow : Bool) (least : Int) :
    Nat → List Char → Gap → Cursor → Option (List Char × Bool × Cursor)
  | 0, _, _, _ => none
  | n + 1, text, gap, cursor =>
    if cursor.isAtDocumentMark || cursor.head? == some '#' then some (text, gap.broken, cursor)
    else do
      let part ← plainPart? inFlow cursor.rest
      if part.isEmpty then some (text, gap.broken, cursor)
      else
        let text := text ++ gap.text ++ part
        let cursor := cursor.advance part.length
        if cursor.rest.isEmpty || !isGap cursor.head? then some (text, false, cursor)
        else
          let (gap, next) ← Gap.read? least cursor.rest.length Gap.empty cursor
          if !inFlow && decide ((next.column : Int) < least) then some (text, gap.broken, next)
          else readPlain? inFlow least n text gap next

/-! ## Scalars in quotes -/

/-- The value of a hexadecimal digit. -/
def hexValue? (c : Char) : Option Nat :=
  if c.isDigit then some (c.toNat - '0'.toNat)
  else if 'a' ≤ c ∧ c ≤ 'f' then some (c.toNat - 'a'.toNat + 10)
  else if 'A' ≤ c ∧ c ≤ 'F' then some (c.toNat - 'A'.toNat + 10)
  else none

/-- The number that hexadecimal digits write. -/
def hexNumber? (digits : List Char) : Option Nat :=
  digits.foldlM (fun n c => (hexValue? c).map (n * 16 + ·)) 0

/-- Escapes of one letter, with the characters they stand for. -/
def letterEscapes : List (Char × Char) :=
  [('0', '\x00'), ('a', '\x07'), ('b', '\x08'), ('t', '\t'), ('\t', '\t'), ('n', '\n'),
    ('v', '\x0b'), ('f', '\x0c'), ('r', '\r'), ('e', '\x1b'), (' ', ' '), ('"', '"'),
    ('/', '/'), ('\\', '\\'), ('N', '\u0085'), ('_', '\u00a0'), ('L', '\u2028'),
    ('P', '\u2029')]

/-- Escapes with hexadecimal digits, and how many of them there are. -/
def numberEscapes : List (Char × Nat) := [('x', 2), ('u', 4), ('U', 8)]

/-- The character that an escape stands for, given the text behind the backslash,
and the length of that text that belongs to it. -/
def readEscape? : List Char → Option (Char × Nat)
  | [] => none
  | c :: rest =>
    match letterEscapes.lookup c, numberEscapes.lookup c with
    | some meant, _ => some (meant, 1)
    | none, some width =>
      if rest.length < width then none
      else do
        let n ← hexNumber? (rest.take width)
        if n.isValidChar then some (Char.ofNat n, width + 1) else none
    | none, none => none

/-- Read the part of a quoted scalar up to a gap or its closing quote. The answer
says whether an escaped line break ended it. -/
def readQuotedPart? (single : Bool) :
    Nat → List Char → Cursor → Option (List Char × Bool × Cursor)
  | 0, text, cursor => some (text, false, cursor)
  | n + 1, text, cursor =>
    match cursor.rest with
    | [] => some (text, false, cursor)
    | c :: rest =>
      if isGap (some c) then some (text, false, cursor)
      else if single then
        if c == '\'' then
          if rest.head? == some '\'' then
            readQuotedPart? single n (text ++ ['\'']) (cursor.advance 2)
          else some (text, false, cursor)
        else readQuotedPart? single n (text ++ [c]) (cursor.advance 1)
      else if c == '"' then some (text, false, cursor)
      else if c == '\\' then
        if rest.head?.any isBreak then some (text, true, (cursor.advance 1).readBreak.2)
        else do
          let (meant, width) ← readEscape? rest
          readQuotedPart? single n (text ++ [meant]) (cursor.advance (width + 1))
      else readQuotedPart? single n (text ++ [c]) (cursor.advance 1)

/-- Read the rest of a quoted scalar, from behind its opening quote or a gap. -/
def readQuoted? (single : Bool) : Nat → List Char → Cursor → Option (List Char × Cursor)
  | 0, _, _ => none
  | n + 1, text, cursor =>
    if cursor.isAtDocumentMark || cursor.rest.isEmpty then none
    else do
      let (text, escaped, next) ← readQuotedPart? single cursor.rest.length text cursor
      if !escaped && next.head? == some (if single then '\'' else '"') then
        some (text, next.advance 1)
      else
        let start := if escaped then Gap.escaped else Gap.empty
        let (gap, next) ← Gap.read? 0 next.rest.length start next
        readQuoted? single n (text ++ gap.text) next

/-! ## Block scalars -/

/-- What becomes of the line breaks at the end of a block scalar. -/
inductive Chomping where
  /-- All of them are left out. -/
  | strip
  /-- One of them is kept. -/
  | clip
  /-- All of them are kept. -/
  | keep
deriving Repr, DecidableEq, Inhabited

/-- The chomping that a character asks for. -/
def Chomping.ofChar? : Char → Option Chomping
  | '+' => some keep
  | '-' => some strip
  | _ => none

/-- Read the indicators behind the start of a block scalar: how to treat its end,
and by how much it is indented, each at most once and in either order. -/
def readBlockHeader? (cursor : Cursor) : Option ((Chomping × Nat) × Cursor) :=
  match cursor.rest with
  | [] => some ((.clip, 0), cursor)
  | c :: rest =>
    match Chomping.ofChar? c with
    | some chomping =>
      match rest.head? with
      | some d =>
        if d == '0' then none
        else if d.isDigit then some ((chomping, d.toNat - '0'.toNat), cursor.advance 2)
        else some ((chomping, 0), cursor.advance 1)
      | none => some ((chomping, 0), cursor.advance 1)
    | none =>
      if c == '0' then none
      else if c.isDigit then
        match rest.head?.bind Chomping.ofChar? with
        | some chomping => some ((chomping, c.toNat - '0'.toNat), cursor.advance 2)
        | none => some ((.clip, c.toNat - '0'.toNat), cursor.advance 1)
      else some ((.clip, 0), cursor)

/-- Read empty lines and the indent of the line behind them. An indent of zero is
not known yet: then all blanks are read, and the widest of them is reported. A tab
must not stand where the indent is expected. -/
def readBlockBreaks? (indent : Nat) :
    Nat → Nat → List Char → Cursor → Option (List Char × Nat × Cursor)
  | 0, widest, breaks, cursor => some (breaks, widest, cursor)
  | n + 1, widest, breaks, cursor =>
    let limit := if indent == 0 then cursor.rest.length else indent - cursor.column
    let blanks := ((cursor.rest.take limit).takeWhile (· == ' ')).length
    let cursor := cursor.advance blanks
    let widest := max widest cursor.column
    if (indent == 0 || cursor.column < indent) && cursor.head? == some '\t' then none
    else if cursor.head?.any isBreak then
      let (text, next) := cursor.readBreak
      readBlockBreaks? indent n widest (breaks ++ text) next
    else some (breaks, widest, cursor)

/-- Read the lines of a block scalar with a known indent. `lastBreak` has the line
break behind the latest line, `breaks` those of the empty lines behind it, and
`blankLine` says whether that line began with a blank. -/
def readBlockLines? (folded : Bool) (indent : Nat) :
    Nat → (text lastBreak breaks : List Char) → (blankLine : Bool) → Cursor →
      Option ((List Char × List Char × List Char) × Cursor)
  | 0, text, lastBreak, breaks, _, cursor => some ((text, lastBreak, breaks), cursor)
  | n + 1, text, lastBreak, breaks, blankLine, cursor =>
    if cursor.column != indent || cursor.rest.isEmpty then
      some ((text, lastBreak, breaks), cursor)
    else
      let blank := cursor.head?.any isSpace
      let joined :=
        if folded && lastBreak == ['\n'] && !blankLine && !blank then
          if breaks.isEmpty then [' '] else breaks
        else lastBreak ++ breaks
      let (line, next) := cursor.takeWhile fun c => !isBreak c
      let (lastBreak, next) := next.readBreak
      do
        let (breaks, _, next) ← readBlockBreaks? indent next.rest.length 0 [] next
        readBlockLines? folded indent n (text ++ joined ++ line) lastBreak breaks blank next

/-- Read a block scalar, from behind its indicator, in a block with the indent
`parent`. -/
def readBlock? (folded : Bool) (parent : Int) (cursor : Cursor) :
    Option (List Char × Cursor) := do
  let ((chomping, increment), cursor) ← readBlockHeader? cursor
  let cursor := cursor.skipWhile isSpace
  let cursor := if cursor.head? == some '#' then cursor.skipWhile (!isBreak ·) else cursor
  if !endsLine cursor.head? then none
  let cursor := cursor.readBreak.2
  let given := if increment == 0 then 0 else parent.toNat + increment
  let (breaks, widest, cursor) ← readBlockBreaks? given cursor.rest.length 0 [] cursor
  let indent := if given == 0 then max widest (max (parent + 1).toNat 1) else given
  let ((text, lastBreak, breaks), cursor) ←
    readBlockLines? folded indent (cursor.rest.length + 1) [] [] breaks false cursor
  let ending :=
    match chomping with
    | .strip => []
    | .clip => lastBreak
    | .keep => lastBreak ++ breaks
  return (text ++ ending, cursor)

end CratePlan.Yaml
