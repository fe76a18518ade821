/-!
# Tags of YAML

A tag says what a node is. The core schema has tags of its own, one for each kind
of scalar; a tag that begins with an exclamation mark is one of the document's own,
and the rest of it is its name.

A tag is a row of bytes rather than a text: the escapes in it write bytes, and these
need not encode characters. Such a tag names nothing.
-/

namespace CratePlan.Yaml

/-- A tag in full. -/
structure Tag where
  bytes : List UInt8
deriving Repr, DecidableEq, Inhabited

namespace Tag

/-- The tag that a text writes. -/
def ofText (text : String) : Tag := ⟨text.toUTF8.toList⟩

/-- The tag of the core schema with a name. -/
def core (name : String) : Tag := ofText ("tag:yaml.org,2002:" ++ name)

/-- The byte of the exclamation mark. -/
def mark : UInt8 := 33

/-- The tag begins with an exclamation mark. -/
def isMarked (tag : Tag) : Bool := tag.bytes.head? == some mark

/-- The name of a tag that is one of the document's own. The tag that is only an
exclamation mark is its own name. -/
def name? (tag : Tag) : Option String :=
  match tag.bytes with
  | [] => none
  | byte :: rest =>
    if byte == mark then
      String.fromUTF8? ⟨(if rest.isEmpty then [mark] else rest).toArray⟩
    else none

/-- A name without an exclamation mark in front, if anything else is left. -/
def bareName (name : String) : List Char :=
  match name.toList with
  | '!' :: c :: rest => c :: rest
  | text => text

/-- Two names mean the same tag: an exclamation mark in front does not count. -/
def sameName (a b : String) : Bool := bareName a == bareName b

end Tag

end CratePlan.Yaml
