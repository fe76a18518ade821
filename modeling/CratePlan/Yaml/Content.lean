import CratePlan.Json.Binary
import CratePlan.Yaml.Atom
import CratePlan.Yaml.Node
import CratePlan.Table

/-!
# What a document says

A document is read for what is expected of it: a text, the entries of a mapping,
the items of a sequence, or any value at all. A node that is left out counts as an
empty mapping or sequence where one of these is expected, while a null does not.
Where a text is expected, a scalar counts with its spelling, whatever it might mean.

Any value is read in one of two ways. As JSON, keys are texts and the last value of
a key counts. As the content of a node, a key may be any value, but only once.

Nodes may be nested to a certain depth, and aliases may be followed a certain number
of times; a document that repeats itself without end is refused by these limits.
-/

namespace CratePlan.Yaml

/-- Reading from a document. The state is how many more aliases may be followed. -/
abbrev Reading := StateT Nat Option

/-- How deep sequences and mappings may be nested. -/
def depthLimit : Nat := 128

/-- The value of a node, as far as values are told apart. -/
inductive Content where
  | null
  | bool (value : Bool)
  | integer (value : Int)
  | decimal (value : Decimal)
  | infinity (negative : Bool)
  | notANumber
  | text (value : String)
  | sequence (items : List Content)
  | mapping (entries : List (Content × Content))
  | tagged (name : String) (content : Content)
deriving Repr, Inhabited

namespace Content

mutual

/-- The two values are the same. The order of a mapping does not count. -/
def same : Content → Content → Bool
  | null, null => true
  | bool a, bool b => a == b
  | integer a, integer b => a == b
  | decimal a, decimal b => a.nearest == b.nearest
  | infinity a, infinity b => a == b
  | notANumber, notANumber => true
  | text a, text b => a == b
  | sequence a, sequence b => sameItems a b
  | mapping a, mapping b => a.length == b.length && entriesWithin a b
  | tagged name a, tagged other b => Tag.sameName name other && same a b
  | _, _ => false

/-- The values of two lists are the same, one by one. -/
def sameItems : List Content → List Content → Bool
  | [], [] => true
  | a :: as, b :: bs => same a b && sameItems as bs
  | _, _ => false

/-- Each entry of a list is among others. -/
def entriesWithin : List (Content × Content) → List (Content × Content) → Bool
  | [], _ => true
  | (key, value) :: rest, others => entryAmong key value others && entriesWithin rest others

/-- An entry is among others. -/
def entryAmong (key value : Content) : List (Content × Content) → Bool
  | [] => false
  | (otherKey, otherValue) :: rest =>
    (same key otherKey && same value otherValue) || entryAmong key value rest

end

end Content

/-! ## Scalars -/

/-- The name of a tag that is one of the document's own. -/
def ownName? (tag : Option Tag) : Option String := tag.bind Tag.name?

/-- The value of an atom; `spelling` is that of a text. -/
def contentOfAtom? (spelling : String) : Atom → Option Content
  | .null => some .null
  | .bool value => some (.bool value)
  | .integer value => some (.integer value)
  | .wideInteger => none
  | .decimal value => some (.decimal value)
  | .infinity negative => some (.infinity negative)
  | .notANumber => some .notANumber
  | .text => some (.text spelling)

/-- The value of a scalar that has no tag. -/
def contentOfUntagged? (text : String) (style : ScalarStyle) : Option Content :=
  if style == .plain then contentOfAtom? text (Atom.ofPlain text) else some (.text text)

/-- The value of a scalar with a tag that is none of the document's own. With a tag
of the core schema, a truth value, a number or a null must be one. Anything else is a
text, unless the tag has an exclamation mark and no name. -/
def contentOfTagged? (text : String) (style : ScalarStyle) (tag : Tag) : Option Content :=
  if tag == .core "bool" then (Atom.bool? text).map .bool
  else if tag == .core "int" then (Atom.integer? text.toList).bind (contentOfAtom? text)
  else if tag == .core "float" then (Atom.decimal? text.toList).bind (contentOfAtom? text)
  else if tag == .core "null" then if Atom.isNull text then some .null else none
  else if tag.isMarked then contentOfUntagged? text style
  else some (.text text)

/-- The value of a scalar, apart from a tag of the document's own. -/
def contentOfScalar? (text : String) (style : ScalarStyle) (tag : Option Tag) : Option Content :=
  match tag with
  | none => contentOfUntagged? text style
  | some tag =>
    if tag.name?.isSome then contentOfUntagged? text style else contentOfTagged? text style tag

/-- A value with the tag of its node, if that is one of the document's own. -/
def withOwnTag (tag : Option Tag) (content : Content) : Content :=
  match ownName? tag with
  | none => content
  | some name => .tagged name content

/-! ## Reading -/

namespace Document

/-- The node itself, or the one that an alias stands for. -/
def follow (document : Document) (node : Node) : Reading Node := do
  match node with
  | .alias _ =>
    let left ← get
    if left == 0 then failure
    set (left - 1)
    match document.resolve node with
    | some target => return target
    | none => failure
  | node => return node

/-- The spelling of a scalar. -/
def text (document : Document) (node : Node) : Reading String := do
  match ← document.follow node with
  | .scalar text _ _ => return text
  | _ => failure

/-- The entries of a mapping. -/
def entries (document : Document) (node : Node) : Reading (List (Node × Node)) := do
  match ← document.follow node with
  | .mapping entries _ => return entries
  | .scalar "" .plain _ => return []
  | _ => failure

/-- The items of a sequence. -/
def items (document : Document) (node : Node) : Reading (List Node) := do
  match ← document.follow node with
  | .sequence items _ => return items
  | .scalar "" .plain _ => return []
  | _ => failure

/-- The entries of a mapping whose keys are texts. -/
def members (document : Document) (node : Node) : Reading (List (String × Node)) := do
  (← document.entries node).mapM fun (key, value) => return (← document.text key, value)

/-- The members of a record. A field that is known may occur once; what is not
known is not looked at. -/
def fields (document : Document) (known : List String) (node : Node) :
    Reading (List (String × Node)) := do
  let found := (← document.members node).filter fun member => known.contains member.1
  if (found.map Prod.fst).Nodup then return found else failure

/-- A table whose keys are texts. The last value of a key counts. -/
def table {α : Type} (document : Document) (value : Node → Reading α) (node : Node) :
    Reading (Table String α) := do
  let pairs ← (← document.members node).mapM fun (key, node) => return (key, ← value node)
  return Table.ofList pairs

/-- The value of a node as JSON, at most `depth` levels deep. A node with a tag of
the document's own has none. -/
def json (document : Document) (depth : Nat) (node : Node) : Reading Json := do
  match ← document.follow node with
  | .scalar text style tag =>
    if (ownName? tag).isSome then failure
    match ← contentOfScalar? text style tag with
    | .bool value => return .bool value
    | .integer value => return .integer value
    | .decimal value => return .decimal value
    | .text value => return .string value
    | _ => return .null
  | .sequence items tag =>
    if (ownName? tag).isSome then failure
    match depth with
    | 0 => failure
    | depth + 1 => return .array (← items.mapM (document.json depth))
  | .mapping entries tag =>
    if (ownName? tag).isSome then failure
    match depth with
    | 0 => failure
    | depth + 1 =>
      let members ← entries.mapM fun (key, value) =>
        return (← document.text key, ← document.json depth value)
      return .object (Table.ofList members).entries
  | .alias _ => failure

/-- Entries one after the other, none with a key that came before. -/
def distinctEntries? (entries : List (Content × Content)) : Option (List (Content × Content)) :=
  entries.foldlM
    (fun seen entry =>
      if seen.any fun other => other.1.same entry.1 then none else some (seen ++ [entry])) []

/-- The content of a node, at most `depth` levels deep. With `bare`, tags do not count: a
mapping with a tag of the document's own is read so that its keys have none. -/
def content (document : Document) (bare : Bool) (depth : Nat) (node : Node) :
    Reading Content := do
  let target ← document.follow node
  let bare := bare && !node.isAlias
  match if bare then target.untagged else target with
  | .scalar text style tag =>
    return withOwnTag tag (← contentOfScalar? text style tag)
  | .sequence items tag =>
    match depth with
    | 0 => failure
    | depth + 1 =>
      return withOwnTag tag (.sequence (← items.mapM (document.content false depth)))
  | .mapping entries tag =>
    match depth with
    | 0 => failure
    | depth + 1 =>
      let bareKeys := bare || (ownName? tag).isSome
      let pairs ← entries.mapM fun (key, value) =>
        return (← document.content bareKeys depth key, ← document.content false depth value)
      return withOwnTag tag (.mapping (← distinctEntries? pairs))
  | .alias _ => failure

/-- Read the root of a document. Aliases may be followed a hundred times for every
place that its nodes take up. -/
def read? {α : Type} (document : Document) (reading : Node → Reading α) : Option α :=
  ((reading document.root).run (100 * document.root.extent)).map Prod.fst

end Document

end CratePlan.Yaml
