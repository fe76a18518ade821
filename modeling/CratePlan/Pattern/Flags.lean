import CratePlan.Pattern.Basic

/-!
# Flags of a written pattern

Flags say how the characters of a written pattern are to be understood: whether case
counts, what a full stop and the two line marks mean, which repetitions are greedy,
whether blanks between the parts count, and whether characters are those of all
scripts or of ASCII alone.
-/

namespace CratePlan.Pattern

open CratePlan.Text

/-- Flags. -/
structure Flags where
  ignoreCase : Bool := false
  multiLine : Bool := false
  dotAll : Bool := false
  swapGreed : Bool := false
  /-- Blanks and comments between the parts are left out. -/
  spaced : Bool := false
  /-- A carriage return ends lines as well. -/
  returns : Bool := false
  /-- Characters are those of all scripts. -/
  unicode : Bool := true
deriving Repr, DecidableEq, Inhabited

namespace Flags

/-- Set a flag by its letter, on or off. -/
def set? (flags : Flags) (on : Bool) : Char → Option Flags
  | 'i' => some { flags with ignoreCase := on }
  | 'm' => some { flags with multiLine := on }
  | 's' => some { flags with dotAll := on }
  | 'U' => some { flags with swapGreed := on }
  | 'x' => some { flags with spaced := on }
  | 'R' => some { flags with returns := on }
  | 'u' => some { flags with unicode := on }
  | _ => none

/-! ## Blanks -/

/-- Leave out a comment, up to the end of its line. -/
def dropComment (text : List Char) : List Char :=
  text.dropWhile (· != '\n')

/-- Leave out blanks and comments, where the flags say so. -/
def skip (flags : Flags) : Nat → List Char → List Char
  | 0, text => text
  | n + 1, text =>
    if flags.spaced then
      match text with
      | [] => []
      | c :: rest =>
        if isBlank c then flags.skip n rest
        else if c == '#' then flags.skip n (dropComment rest)
        else text
    else text

/-- Leave out all blanks and comments at the start of a text. -/
def skipSpace (flags : Flags) (text : List Char) : List Char :=
  flags.skip text.length text

/-! ## Sets -/

/-- The characters that words consist of. -/
def alphabet (flags : Flags) : Alphabet := if flags.unicode then .unicode else .ascii

/-- A set with the characters that it stands for besides, where case does not count. -/
def folded (flags : Flags) (set : CharSet) : CharSet :=
  if !flags.ignoreCase then set
  else if flags.unicode then set.anyCase
  else set.anyAsciiCase

/-- The pattern of a character that stands for itself. -/
def literal (flags : Flags) (c : Char) : Pattern :=
  .ofSet (flags.folded (.single c))

/-- The code points of single bytes. -/
def byteCodes : CharSet := .range '\x00' '\xff'

/-- The other characters. Where characters are those of ASCII, the codes up to 255
count, and none beyond ASCII may be left. -/
def negated? (flags : Flags) (set : CharSet) : Option CharSet :=
  if flags.unicode then some set.complement
  else
    let others := byteCodes.minus set
    if others.isAscii then some others else none

/-- The pattern of a full stop. There is none for the characters of ASCII alone. -/
def dot? (flags : Flags) : Option Pattern :=
  let breaks :=
    if flags.dotAll then CharSet.none
    else if flags.returns then (CharSet.single '\n').union (.single '\r')
    else .single '\n'
  if flags.unicode then some (.one breaks.complement) else none

/-- The decimal digits. -/
def digits (flags : Flags) : CharSet := if flags.unicode then .decimal else .range '0' '9'

/-- The blank characters. -/
def blanks (flags : Flags) : CharSet :=
  if flags.unicode then .blank else .ofRanges [('\t', '\r'), (' ', ' ')]

/-- The word characters. -/
def wordCharacters (flags : Flags) : CharSet :=
  if flags.unicode then .word
  else .ofRanges [('0', '9'), ('A', 'Z'), ('_', '_'), ('a', 'z')]

/-! ## Conditions -/

/-- What a circumflex asks for. -/
def startBoundary (flags : Flags) : Boundary :=
  if !flags.multiLine then .textStart
  else if flags.returns then .returnLineStart
  else .lineStart

/-- What a dollar sign asks for. -/
def endBoundary (flags : Flags) : Boundary :=
  if !flags.multiLine then .textEnd
  else if flags.returns then .returnLineEnd
  else .lineEnd

end Flags

end CratePlan.Pattern
