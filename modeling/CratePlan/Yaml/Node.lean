import CratePlan.Yaml.Token.Stream

/-!
# Nodes of YAML

The tokens of a text describe a tree of nodes: scalars, sequences, and mappings
whose keys are nodes as well. A node that has a name can be repeated elsewhere by
an alias; an alias is kept as such, with the number of the node it stands for,
because it may stand inside that node.

A number is the count of the different names before it. A name that is given again
takes a new number, and the next new name takes that number too; the alias that
stands for it then means the node that began last with it.

A node that is left out is an empty plain scalar.

The functions that read nodes call each other; each call reads a token or is
followed by one that does, so twice the number of tokens bounds their depth.
-/

namespace CratePlan.Yaml

/-- A node. -/
inductive Node where
  | scalar (text : String) (style : ScalarStyle) (tag : Option Tag)
  | sequence (items : List Node) (tag : Option Tag)
  | mapping (entries : List (Node × Node)) (tag : Option Tag)
  /-- The node with a number, once more. -/
  | alias (target : Nat)
deriving Repr, Inhabited

namespace Node

/-- The node that is left out. -/
def empty : Node := scalar "" .plain none

/-- The node is an alias. -/
def isAlias : Node → Bool
  | .alias _ => true
  | _ => false

/-- The node without its tag. -/
def untagged : Node → Node
  | scalar text style _ => scalar text style none
  | sequence items _ => sequence items none
  | mapping entries _ => mapping entries none
  | .alias target => .alias target

mutual

/-- How many places of a text a node takes up: one for a scalar or an alias, and
two for the ends of anything else besides what is in it. -/
def extent : Node → Nat
  | scalar _ _ _ => 1
  | .alias _ => 1
  | sequence items _ => 2 + extentItems items
  | mapping entries _ => 2 + extentEntries entries

/-- The extents of several nodes together. -/
def extentItems : List Node → Nat
  | [] => 0
  | item :: rest => extent item + extentItems rest

/-- The extents of several keys and values together. -/
def extentEntries : List (Node × Node) → Nat
  | [] => 0
  | (key, value) :: rest => extent key + extent value + extentEntries rest

end

end Node

/-- A document: its node, and the nodes that have a name. -/
structure Document where
  root : Node
  /-- Which of the named nodes has a number, the latest first. The nodes count in the
  order in which they begin. -/
  owners : List (Nat × Nat)
  /-- The named nodes. -/
  named : List (Nat × Node)
deriving Inhabited

namespace Document

/-- The document that says nothing. -/
def empty : Document := ⟨.empty, [], []⟩

/-- The node that an alias stands for; another node stands for itself. -/
def resolve (document : Document) : Node → Option Node
  | .alias target => (document.owners.lookup target).bind fun place => document.named.lookup place
  | node => some node

end Document

/-! ## From tokens to nodes -/

/-- What is known while the nodes of a document are read. -/
structure NodeState where
  tokens : List Token
  /-- The meaning of tag handles. -/
  handles : List (String × List UInt8)
  /-- The names of nodes, each once, with the numbers they have now. -/
  names : List (String × Nat)
  /-- The numbers that nodes have been given, with the count of named nodes before
  them, the latest first. -/
  owners : List (Nat × Nat)
  /-- Named nodes that have been read. -/
  named : List (Nat × Node)
deriving Inhabited

/-- Reading from tokens, which fails if they make no sense. -/
abbrev NodeReader := StateT NodeState Option

namespace NodeReader

/-- The meaning of tag handles that no directive has changed. -/
def standardHandles : List (String × List UInt8) :=
  [("!", [Tag.mark]), ("!!", (Tag.core "").bytes)]

/-- The next token. -/
def peek : NodeReader Token := do
  match (← get).tokens with
  | [] => failure
  | token :: _ => return token

/-- Step over the next token. -/
def skip : NodeReader Unit :=
  modify fun state => { state with tokens := state.tokens.tail }

/-- Step over the next token if it is the given one, and say whether it was. -/
def skipIf (token : Token) : NodeReader Bool := do
  if (← peek) == token then
    skip
    return true
  else return false

/-- Step over the next token, which must be the given one. -/
def expect (token : Token) : NodeReader Unit := do
  if !(← skipIf token) then failure

/-- A tag in full. -/
def resolveTag (handle : String) (suffix : List UInt8) : NodeReader Tag := do
  if handle.isEmpty then return ⟨suffix⟩
  match (← get).handles.lookup handle with
  | some start => return ⟨start ++ suffix⟩
  | none => failure

/-- Read an anchor, if there is one. -/
def anchor? : NodeReader (Option String) := do
  match ← peek with
  | .anchor name =>
    skip
    return some name
  | _ => return none

/-- Read a tag, if there is one. -/
def tag? : NodeReader (Option Tag) := do
  match ← peek with
  | .tag handle suffix =>
    skip
    return some (← resolveTag handle suffix)
  | _ => return none

/-- Read an anchor and a tag, in either order, as far as they are there. -/
def properties : NodeReader (Option String × Option Tag) := do
  match ← anchor? with
  | some name => return (some name, ← tag?)
  | none =>
    match ← tag? with
    | some tag => return (← anchor?, some tag)
    | none => return (none, none)

/-- Give a name its number. The answer says how many nodes have had a name before. -/
def announce (name : Option String) : NodeReader (Option Nat) := do
  match name with
  | none => return none
  | some name =>
    let state ← get
    let number := state.names.length
    let place := state.owners.length
    let others := state.names.filter fun entry => entry.1 != name
    set { state with
      names := (name, number) :: others, owners := (number, place) :: state.owners }
    return some place

/-- Keep a node that has a name. -/
def keep (place : Option Nat) (node : Node) : NodeReader Node := do
  match place with
  | none => return node
  | some place =>
    modify fun state => { state with named := (place, node) :: state.named }
    return node

/-- The tokens before which an entry of a block is left out. -/
def endsEntry : Token → Bool
  | .blockEntry => true
  | .key => true
  | .value => true
  | .blockEnd => true
  | _ => false

/-- The tokens before which a key or value of a block mapping is left out. -/
def endsPair : Token → Bool
  | .key => true
  | .value => true
  | .blockEnd => true
  | _ => false

mutual

/-- Read a node. Blocks are admitted only if `block`; entries without an indent of
their own only if `indentless`. -/
def node (block indentless : Bool) : Nat → NodeReader Node
  | 0 => failure
  | n + 1 => do
    match ← peek with
    | .alias name =>
      skip
      match (← get).names.lookup name with
      | some number => return .alias number
      | none => failure
    | _ =>
      let (name, tag) ← properties
      let place ← announce name
      match ← peek with
      | .blockEntry =>
        if indentless then
          keep place (.sequence (← indentlessEntries n) tag)
        else leftOut name tag place
      | .scalar text style =>
        skip
        keep place (.scalar text style tag)
      | .flowSequenceStart =>
        skip
        keep place (.sequence (← flowItems true n) tag)
      | .flowMappingStart =>
        skip
        keep place (.mapping (← flowPairs true n) tag)
      | .blockSequenceStart =>
        if block then
          skip
          keep place (.sequence (← blockEntries n) tag)
        else leftOut name tag place
      | .blockMappingStart =>
        if block then
          skip
          keep place (.mapping (← blockPairs n) tag)
        else leftOut name tag place
      | _ => leftOut name tag place
where
  /-- A node may be left out if it has a name or a tag. -/
  leftOut (name : Option String) (tag : Option Tag) (place : Option Nat) : NodeReader Node :=
    if name.isSome || tag.isSome then keep place (.scalar "" .plain tag) else failure

/-- Read the entries of a block sequence. -/
def blockEntries : Nat → NodeReader (List Node)
  | 0 => failure
  | n + 1 => do
    if ← skipIf .blockEntry then
      let next ← peek
      let item ←
        if next == .blockEntry || next == .blockEnd then pure .empty else node true false n
      return item :: (← blockEntries n)
    else
      expect .blockEnd
      return []

/-- Read the entries of a sequence that has no indent of its own. -/
def indentlessEntries : Nat → NodeReader (List Node)
  | 0 => failure
  | n + 1 => do
    if ← skipIf .blockEntry then
      let item ← if endsEntry (← peek) then pure .empty else node true false n
      return item :: (← indentlessEntries n)
    else return []

/-- Read the keys and values of a block mapping. -/
def blockPairs : Nat → NodeReader (List (Node × Node))
  | 0 => failure
  | n + 1 => do
    match ← peek with
    | .blockEnd =>
      skip
      return []
    | .key =>
      skip
      let key ← if endsPair (← peek) then pure .empty else node true true n
      let value ←
        if ← skipIf .value then
          if endsPair (← peek) then pure .empty else node true true n
        else pure .empty
      return (key, value) :: (← blockPairs n)
    | _ => failure

/-- Read the items of a sequence in brackets. An item may be a single pair. -/
def flowItems (first : Bool) : Nat → NodeReader (List Node)
  | 0 => failure
  | n + 1 => do
    if ← skipIf .flowSequenceEnd then return []
    if !first then expect .flowEntry
    match ← peek with
    | .flowSequenceEnd =>
      skip
      return []
    | .key =>
      skip
      let pair ← flowPair n
      return .mapping [pair] none :: (← flowItems false n)
    | _ =>
      let item ← node false false n
      return item :: (← flowItems false n)

/-- Read the single pair that is an item of a sequence in brackets. -/
def flowPair : Nat → NodeReader (Node × Node)
  | 0 => failure
  | n + 1 => do
    let next ← peek
    let key ←
      if next == .value || next == .flowEntry || next == .flowSequenceEnd then
        skip
        pure .empty
      else node false false n
    if ← skipIf .value then
      let next ← peek
      if next == .flowEntry || next == .flowSequenceEnd then return (key, .empty)
      else return (key, ← node false false n)
    else return (key, .empty)

/-- Read the keys and values of a mapping in brackets. -/
def flowPairs (first : Bool) : Nat → NodeReader (List (Node × Node))
  | 0 => failure
  | n + 1 => do
    if ← skipIf .flowMappingEnd then return []
    if !first then expect .flowEntry
    match ← peek with
    | .flowMappingEnd =>
      skip
      return []
    | .key =>
      skip
      let next ← peek
      let key ←
        if next == .value || next == .flowEntry || next == .flowMappingEnd then pure .empty
        else node false false n
      let value ←
        if ← skipIf .value then
          let next ← peek
          if next == .flowEntry || next == .flowMappingEnd then pure .empty
          else node false false n
        else pure .empty
      return (key, value) :: (← flowPairs false n)
    | _ =>
      let key ← node false false n
      return (key, .empty) :: (← flowPairs false n)

end

/-- Read the directives at the head of a document, of which `version` says whether
one gave the version. The version and each handle are given at most once. -/
def directives (version : Bool) (handles : List (String × List UInt8)) :
    Nat → NodeReader (List (String × List UInt8))
  | 0 => failure
  | n + 1 => do
    match ← peek with
    | .versionDirective major minor =>
      if version || major != 1 || (minor != 1 && minor != 2) then failure
      skip
      directives true handles n
    | .tagDirective handle start =>
      if (handles.lookup handle).isSome then failure
      skip
      directives version ((handle, start) :: handles) n
    | _ => return handles

/-- The next token begins the head of a document. -/
def atHead : NodeReader Bool := do
  match ← peek with
  | .versionDirective _ _ => return true
  | .tagDirective _ _ => return true
  | .documentStart => return true
  | _ => return false

/-- Read the node of a document, which may be left out behind a head. -/
def content (depth : Nat) : NodeReader Node := do
  if ← atHead then return .empty
  match ← peek with
  | .documentEnd => return .empty
  | .streamEnd => return .empty
  | _ => node true false depth

/-- Step over the marks that end a document. -/
def skipEnds : Nat → NodeReader Unit
  | 0 => return
  | n + 1 => do
    if ← skipIf .documentEnd then skipEnds n

/-- Read documents up to the end of the text. Only the first may lack a head. -/
def documents (first : Bool) : Nat → NodeReader (List Document)
  | 0 => failure
  | n + 1 => do
    let depth := 2 * (← get).tokens.length + 2
    if !first then skipEnds depth
    if (← peek) == .streamEnd then return []
    modify fun state =>
      { state with handles := standardHandles, names := [], owners := [], named := [] }
    let root ←
      if first && !(← atHead) then node true false depth
      else
        let given ← directives false [] depth
        modify fun state => { state with handles := given ++ standardHandles }
        expect .documentStart
        content depth
    let state ← get
    let document := ⟨root, state.owners, state.named⟩
    return document :: (← documents false n)

end NodeReader

/-- The documents of a text, if it has any reading. -/
def Document.listOfText? (text : String) : Option (List Document) := do
  let tokens ← Token.ofText? text
  let (documents, _) ←
    (NodeReader.documents true (tokens.length + 1)).run ⟨tokens, [], [], [], []⟩
  return documents

/-- The document of a text that has one at most; a text without any says nothing. -/
def Document.ofText? (text : String) : Option Document := do
  match ← Document.listOfText? text with
  | [] => return .empty
  | [document] => return document
  | _ => none

end CratePlan.Yaml
