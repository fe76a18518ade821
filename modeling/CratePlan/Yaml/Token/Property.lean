import CratePlan.Yaml.Cursor
import CratePlan.Yaml.Tag
import CratePlan.Yaml.Token
import CratePlan.Yaml.Token.Scalar

/-!
# Reading anchors, tags and directives

A node may be given a name, by which it is repeated elsewhere, and a tag, which
says what it is. A tag is written in full between angle brackets, or as a suffix
behind a handle. Directives at the head of a document give the version of the
language and the meaning of handles.
-/

namespace CratePlan.Yaml

/-- Read the name of an anchor or alias, from behind its indicator. A gap must
follow, or an indicator that cannot belong to the name. -/
def readName? (cursor : Cursor) : Option (String × Cursor) :=
  let (name, next) := cursor.takeWhile isNameChar
  let ended := isGap next.head? ||
    next.head?.any ['?', ':', ',', ']', '\x7d', '%', '@', '\x60'].contains
  if name.isEmpty || !ended then none else some (String.ofList name, next)

/-- The marks that may stand in a tag. -/
def tagMarks : List Char :=
  [';', '/', '?', ':', '@', '&', '=', '+', '$', '.', '%', '!', '~', '*', '\'', '(', ')']

/-- The character may stand in a tag; between angle brackets there are more. -/
def isTagChar (verbatim : Bool) (c : Char) : Bool :=
  isNameChar c || tagMarks.contains c || (verbatim && [',', '[', ']'].contains c)

/-- How many bytes encode a character, as the first of them tells. -/
def encodedWidth? (byte : Nat) : Option Nat :=
  if byte < 0x80 then some 1
  else if byte < 0xC0 then none
  else if byte < 0xE0 then some 2
  else if byte < 0xF0 then some 3
  else if byte < 0xF8 then some 4
  else none

/-- Resolve the escapes of a tag: a percent sign and two hexadecimal digits stand
for one byte. Of the bytes that encode one character, the first tells how many there
are, and as many must follow it; `pending` of them are still to come. -/
def tagBytes? : (pending : Nat) → List Char → Option (List UInt8)
  | 0, [] => some []
  | _ + 1, [] => none
  | pending, '%' :: high :: low :: rest => do
    let byte ← hexNumber? [high, low]
    let pending ←
      match pending with
      | 0 => (encodedWidth? byte).map (· - 1)
      | pending + 1 => if 0x80 ≤ byte && byte < 0xC0 then some pending else none
    (tagBytes? pending rest).map (UInt8.ofNat byte :: ·)
  | _, '%' :: _ => none
  | 0, c :: rest => (tagBytes? 0 rest).map (UInt8.ofNat c.toNat :: ·)
  | _ + 1, _ :: _ => none

/-- The bytes of a tag or of its beginning. It ends before the first zero byte. -/
def tagText? (text : List Char) : Option (List UInt8) :=
  (tagBytes? 0 text).map fun bytes => bytes.takeWhile (· != 0)

/-- Read a tag, from behind its exclamation mark: its handle and its suffix. The
tag that is only an exclamation mark has an empty handle. -/
def readTagParts? (cursor : Cursor) : Option ((List Char × List UInt8) × Cursor) :=
  if cursor.head? == some '<' then do
    let (suffix, next) := (cursor.advance 1).takeWhile (isTagChar true)
    if suffix.isEmpty || next.head? != some '>' then none
    else some (([], ← tagText? suffix), next.advance 1)
  else
    let (name, afterName) := cursor.takeWhile isNameChar
    if afterName.head? == some '!' then do
      let (suffix, next) := (afterName.advance 1).takeWhile (isTagChar false)
      if suffix.isEmpty then none
      else some (('!' :: name ++ ['!'], ← tagText? suffix), next)
    else do
      let (suffix, next) := cursor.takeWhile (isTagChar false)
      let suffix ← tagText? suffix
      if suffix.isEmpty then some (([], [Tag.mark]), next) else some ((['!'], suffix), next)

/-- Read a tag, from behind its exclamation mark. A gap must follow, or a comma in
brackets. -/
def readTag? (inFlow : Bool) (cursor : Cursor) : Option (Token × Cursor) := do
  let ((handle, suffix), next) ← readTagParts? cursor
  if isGap next.head? || (inFlow && next.head? == some ',') then
    some (.tag (String.ofList handle) suffix, next)
  else none

/-- The number that decimal digits write; there are one to nine of them. -/
def versionNumber? (digits : List Char) : Option Nat :=
  if digits.isEmpty || digits.length > 9 then none
  else some (digits.foldl (fun n c => n * 10 + (c.toNat - '0'.toNat)) 0)

/-- Read the version behind a version directive. -/
def readVersion? (cursor : Cursor) : Option (Token × Cursor) := do
  let (major, next) := (cursor.skipWhile isSpace).takeWhile Char.isDigit
  if next.head? != some '.' then none
  let (minor, next) := (next.advance 1).takeWhile Char.isDigit
  return (.versionDirective (← versionNumber? major) (← versionNumber? minor), next)

/-- Read the handle and the meaning behind a tag directive. -/
def readTagDirective? (cursor : Cursor) : Option (Token × Cursor) := do
  let cursor := cursor.skipWhile isSpace
  if cursor.head? != some '!' then none
  let (name, next) := (cursor.advance 1).takeWhile isNameChar
  let (handle, next) :=
    if next.head? == some '!' then ('!' :: name ++ ['!'], next.advance 1) else ('!' :: name, next)
  if handle.length != 1 && handle.getLast? != some '!' then none
  if !next.head?.any isSpace then none
  let (start, next) := (next.skipWhile isSpace).takeWhile (isTagChar true)
  if start.isEmpty || !isGap next.head? then none
  return (.tagDirective (String.ofList handle) (← tagText? start), next)

/-- Read a directive, from behind its percent sign, up to the end of its line. -/
def readDirective? (cursor : Cursor) : Option (Token × Cursor) := do
  let (name, next) := cursor.takeWhile isNameChar
  if !isGap next.head? then none
  let (token, next) ←
    if name == "YAML".toList then readVersion? next
    else if name == "TAG".toList then readTagDirective? next
    else none
  let next := next.skipWhile isSpace
  let next := if next.head? == some '#' then next.skipWhile (!isBreak ·) else next
  if !endsLine next.head? then none
  return (token, next.readBreak.2)

end CratePlan.Yaml
