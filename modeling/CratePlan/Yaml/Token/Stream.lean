import CratePlan.Yaml.Token.Property

/-!
# Reading a text as tokens

The reader goes through the text once, from token to token. Two things it cannot
know at the place where they belong. That a block has ended shows at the first
token that stands further left. That a scalar or bracket was a key shows at the
colon behind it, on the same line; so the reader remembers where a key may have
begun, and puts the tokens that say so into the sequence afterwards.

Each pair of brackets has its own place for a possible key. Inside brackets the
indentation means nothing.
-/

namespace CratePlan.Yaml

/-- A place where a key may have begun. -/
structure KeyStart where
  /-- No other reading is possible there: the colon must follow. -/
  required : Bool
  /-- The number of tokens before it. -/
  position : Nat
  index : Nat
  line : Nat
  column : Nat
deriving Repr, DecidableEq, Inhabited

/-- How far the reader has come. -/
structure TokenReader where
  cursor : Cursor
  tokens : Array Token
  /-- The column of the present block; it is -1 outside all blocks. -/
  indent : Int
  /-- The columns of the blocks around it, the nearest first. -/
  outer : List Int
  /-- Where a key may have begun outside brackets. -/
  key : Option KeyStart
  /-- The same for the brackets that are open, the innermost first. -/
  flowKeys : List (Option KeyStart)
  /-- A key may begin at the next token. -/
  keyAllowed : Bool
deriving Inhabited

namespace TokenReader

/-- The reader at the start of a text. -/
def start (text : List Char) : TokenReader :=
  { cursor := .start text, tokens := #[], indent := -1, outer := [], key := none,
    flowKeys := [], keyAllowed := true }

/-- Brackets are open. -/
def inFlow (reader : TokenReader) : Bool := !reader.flowKeys.isEmpty

/-- The possible key of the innermost brackets, or of the block. -/
def presentKey (reader : TokenReader) : Option KeyStart :=
  match reader.flowKeys with
  | [] => reader.key
  | key :: _ => key

/-- Put another possible key in that place. -/
def withKey (reader : TokenReader) (key : Option KeyStart) : TokenReader :=
  match reader.flowKeys with
  | [] => { reader with key := key }
  | _ :: others => { reader with flowKeys := key :: others }

/-- Give up a possible key; one that is required cannot be given up. -/
def dropKey? (reader : TokenReader) : Option TokenReader :=
  match reader.presentKey with
  | none => some reader
  | some key => if key.required then none else some (reader.withKey none)

/-- Remember that a key may begin here, if it may. -/
def saveKey? (reader : TokenReader) : Option TokenReader :=
  if reader.keyAllowed then do
    let reader ← reader.dropKey?
    return reader.withKey (some {
      required := !reader.inFlow && decide (reader.indent = (reader.cursor.column : Int))
      position := reader.tokens.size
      index := reader.cursor.index
      line := reader.cursor.line
      column := reader.cursor.column })
  else some reader

/-- A key ends on its line and within 1024 characters. One that has not is given up. -/
def settleKey? (cursor : Cursor) : Option KeyStart → Option (Option KeyStart)
  | none => some none
  | some key =>
    if key.line < cursor.line || key.index + 1024 < cursor.index then
      if key.required then none else some none
    else some (some key)

/-- Give up all possible keys that can be none any more. -/
def settleKeys? (reader : TokenReader) : Option TokenReader := do
  let key ← settleKey? reader.cursor reader.key
  let flowKeys ← reader.flowKeys.mapM (settleKey? reader.cursor)
  return { reader with key, flowKeys }

/-- Add a token. -/
def push (reader : TokenReader) (token : Token) : TokenReader :=
  { reader with tokens := reader.tokens.push token }

/-- Begin a block at a column, if that is further in, with a token at a position. -/
def openBlock (reader : TokenReader) (column position : Nat) (token : Token) : TokenReader :=
  if !reader.inFlow && decide (reader.indent < (column : Int)) then
    { reader with
      indent := column
      outer := reader.indent :: reader.outer
      tokens := reader.tokens.insertIdxIfInBounds position token }
  else reader

/-- End the blocks whose column, given as a list, is further in than a column. -/
def closeBlocksFrom (column : Int) (reader : TokenReader) : List Int → TokenReader
  | [] => reader
  | next :: outer =>
    if reader.indent > column then
      closeBlocksFrom column ({ reader with indent := next, outer }.push .blockEnd) outer
    else reader

/-- End the blocks that are further in than a column. -/
def closeBlocks (reader : TokenReader) (column : Int) : TokenReader :=
  if reader.inFlow then reader else closeBlocksFrom column reader reader.outer

/-- Step over characters of a line. -/
def advance (reader : TokenReader) (n : Nat) : TokenReader :=
  { reader with cursor := reader.cursor.advance n }

/-- The mark of the byte order. -/
def byteOrderMark : Char := '\uFEFF'

/-- Leave out blanks, comments and line breaks. A tab is left out only where no
key may begin. Outside brackets, a key may begin on every new line. One mark of the
byte order is left out at the start of a line; it takes up a column all the same. -/
def skipGap : Nat → TokenReader → TokenReader
  | 0, reader => reader
  | n + 1, reader =>
    let marked := reader.cursor.column == 0 && reader.cursor.head? == some byteOrderMark
    let cursor := if marked then reader.cursor.advance 1 else reader.cursor
    let cursor := cursor.skipWhile fun c =>
      c == ' ' || (c == '\t' && (reader.inFlow || !reader.keyAllowed))
    let cursor := if cursor.head? == some '#' then cursor.skipWhile (!isBreak ·) else cursor
    if cursor.head?.any isBreak then
      let cursor := cursor.readBreak.2
      skipGap n { reader with cursor, keyAllowed := reader.keyAllowed || !reader.inFlow }
    else { reader with cursor }

/-- Read a directive or the mark of a document, which ends all blocks. -/
def outsideBlocks? (reader : TokenReader) : Option TokenReader :=
  (reader.closeBlocks (-1)).dropKey?.map ({ · with keyAllowed := false })

/-- Read the opening bracket of a sequence or mapping. -/
def openFlow? (reader : TokenReader) (token : Token) : Option TokenReader := do
  let reader ← reader.saveKey?
  return { reader.push token with
    flowKeys := none :: reader.flowKeys, keyAllowed := true }.advance 1

/-- Read the closing bracket of a sequence or mapping. -/
def closeFlow? (reader : TokenReader) (token : Token) : Option TokenReader := do
  let reader ← reader.dropKey?
  return { reader.push token with
    flowKeys := reader.flowKeys.tail, keyAllowed := false }.advance 1

/-- Read the comma between entries in brackets. -/
def flowEntry? (reader : TokenReader) : Option TokenReader := do
  let reader ← reader.dropKey?
  return { reader.push .flowEntry with keyAllowed := true }.advance 1

/-- Read the hyphen before an entry of a block sequence. -/
def blockEntry? (reader : TokenReader) : Option TokenReader := do
  if !reader.inFlow && !reader.keyAllowed then none
  let reader := reader.openBlock reader.cursor.column reader.tokens.size .blockSequenceStart
  let reader ← reader.dropKey?
  return { reader.push .blockEntry with keyAllowed := true }.advance 1

/-- Read the question mark before a key. -/
def explicitKey? (reader : TokenReader) : Option TokenReader := do
  if !reader.inFlow && !reader.keyAllowed then none
  let reader := reader.openBlock reader.cursor.column reader.tokens.size .blockMappingStart
  let reader ← reader.dropKey?
  return { reader.push .key with keyAllowed := !reader.inFlow }.advance 1

/-- Read the colon before a value. If a key may have begun before it, it did. -/
def mappingValue? (reader : TokenReader) : Option TokenReader := do
  let reader ←
    match reader.presentKey with
    | some key =>
      let reader :=
        { reader with tokens := reader.tokens.insertIdxIfInBounds key.position .key }
      let reader := reader.openBlock key.column key.position .blockMappingStart
      some { reader.withKey none with keyAllowed := false }
    | none =>
      if !reader.inFlow && !reader.keyAllowed then none
      else
        let reader := reader.openBlock reader.cursor.column reader.tokens.size .blockMappingStart
        some { reader with keyAllowed := !reader.inFlow }
  return (reader.push .value).advance 1

/-- Read a token that may begin a key and that none can follow directly. -/
def keyToken? (reader : TokenReader) (read : Cursor → Option (Token × Cursor)) :
    Option TokenReader := do
  let reader ← reader.saveKey?
  let (token, cursor) ← read reader.cursor
  return { reader.push token with cursor, keyAllowed := false }

/-- Read a block scalar, behind which a key may begin. -/
def blockScalar? (reader : TokenReader) (folded : Bool) : Option TokenReader := do
  let reader ← reader.dropKey?
  let (text, cursor) ← readBlock? folded reader.indent (reader.cursor.advance 1)
  let style := if folded then ScalarStyle.folded else .literal
  return { reader.push (.scalar (String.ofList text) style) with cursor, keyAllowed := true }

/-- Read a quoted scalar. -/
def quotedScalar? (reader : TokenReader) (single : Bool) : Option TokenReader :=
  reader.keyToken? fun cursor => do
    let (text, next) ← readQuoted? single (cursor.rest.length + 1) [] (cursor.advance 1)
    return (.scalar (String.ofList text) (if single then .singleQuoted else .doubleQuoted), next)

/-- Read a plain scalar. If it ended behind a line break, a key may begin there. -/
def plainScalar? (reader : TokenReader) : Option TokenReader := do
  let reader ← reader.saveKey?
  let (text, broken, cursor) ←
    readPlain? reader.inFlow (reader.indent + 1) (reader.cursor.rest.length + 1) [] .empty
      reader.cursor
  return { reader.push (.scalar (String.ofList text) .plain) with cursor, keyAllowed := broken }

/-- Characters that cannot begin a plain scalar. -/
def indicators : List Char :=
  ['-', '?', ':', ',', '[', ']', '\x7b', '\x7d', '#', '&', '*', '!', '|', '>', '\'', '"', '%',
    '@', '\x60']

/-- A plain scalar can begin with `c`, before `next`. Three indicators can begin one
where nothing sets them off. -/
def beginsPlain (inFlow : Bool) (c : Char) (next : Option Char) : Bool :=
  !(isGap (some c) || indicators.contains c) ||
    (c == '-' && !next.any isSpace) ||
    (!inFlow && (c == '?' || c == ':') && !isGap next)

/-- Read one token, at its first character `c`. -/
def token? (reader : TokenReader) (c : Char) : Option TokenReader :=
  let next := reader.cursor.peek 1
  if reader.cursor.column == 0 && c == '%' then do
    let reader ← reader.outsideBlocks?
    let (token, cursor) ← readDirective? (reader.cursor.advance 1)
    return { reader.push token with cursor }
  else if reader.cursor.isAtMark '-' then
    reader.outsideBlocks?.map fun reader => (reader.push .documentStart).advance 3
  else if reader.cursor.isAtMark '.' then
    reader.outsideBlocks?.map fun reader => (reader.push .documentEnd).advance 3
  else if c == '[' then reader.openFlow? .flowSequenceStart
  else if c == '\x7b' then reader.openFlow? .flowMappingStart
  else if c == ']' then reader.closeFlow? .flowSequenceEnd
  else if c == '\x7d' then reader.closeFlow? .flowMappingEnd
  else if c == ',' then reader.flowEntry?
  else if c == '-' && isGap next then reader.blockEntry?
  else if c == '?' && (reader.inFlow || isGap next) then reader.explicitKey?
  else if c == ':' && (reader.inFlow || isGap next) then reader.mappingValue?
  else if c == '*' then
    reader.keyToken? fun cursor =>
      (readName? (cursor.advance 1)).map fun (name, next) => (.alias name, next)
  else if c == '&' then
    reader.keyToken? fun cursor =>
      (readName? (cursor.advance 1)).map fun (name, next) => (.anchor name, next)
  else if c == '!' then
    reader.keyToken? fun cursor => readTag? reader.inFlow (cursor.advance 1)
  else if c == '|' && !reader.inFlow then reader.blockScalar? false
  else if c == '>' && !reader.inFlow then reader.blockScalar? true
  else if c == '\'' then reader.quotedScalar? true
  else if c == '"' then reader.quotedScalar? false
  else if beginsPlain reader.inFlow c next then reader.plainScalar?
  else none

/-- Read the end of the text, which ends all blocks. -/
def finish? (reader : TokenReader) : Option (Array Token) :=
  ((reader.closeBlocks (-1)).dropKey?).map fun reader => reader.tokens.push .streamEnd

/-- Read token after token up to the end of the text. -/
def readAll? : Nat → TokenReader → Option (Array Token)
  | 0, _ => none
  | n + 1, reader => do
    let reader ← (reader.skipGap (reader.cursor.rest.length + 1)).settleKeys?
    let reader := reader.closeBlocks reader.cursor.column
    match reader.cursor.head? with
    | none => reader.finish?
    | some c => readAll? n (← reader.token? c)

end TokenReader

/-- The tokens of a text, if it has any reading. -/
def Token.ofText? (text : String) : Option (List Token) :=
  let chars := text.toList
  if chars.all isAllowed then
    ((TokenReader.start chars).readAll? (chars.length + 1)).map Array.toList
  else none

end CratePlan.Yaml
