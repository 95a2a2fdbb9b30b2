import UsageWatch.Yaml.Token
/-!
# Texts as tokens

Blocks are told by indentation: a block begins where a key or an entry stands
further to the right, and ends where something stands further to the left.
Whether a word is a key shows only at the colon behind it, so each place where
a key may have begun is remembered until then; the mark of the key is put in
afterwards. A key has to stand on one line with its colon, at most 1024
characters in front of it.
-/

namespace UsageWatch.Yaml

structure KeyStart where
  /-- Whether nothing but a key can stand there. -/
  required : Bool
  /-- Number of tokens in front of it. -/
  position : Nat
  index : Nat
  line : Nat
  column : Nat

structure TokenReader where
  cursor : Cursor
  /-- The tokens so far, the newest first. -/
  tokens : List Token := []
  count : Nat := 0
  /-- Column of the current block, -1 outside of all blocks. -/
  indent : Int := -1
  /-- Columns of the blocks around it, the innermost first. -/
  outer : List Int := []
  /-- Whether a key may begin at the cursor. -/
  keyAllowed : Bool := true
  /-- Where a key may have begun, outside of brackets. -/
  blockKey : Option KeyStart := none
  /-- Where a key may have begun, inside of each open bracket, the innermost first. -/
  flowKeys : List (Option KeyStart) := []

namespace TokenReader

def inFlow (r : TokenReader) : Bool := !r.flowKeys.isEmpty

def push (t : Token) (r : TokenReader) : TokenReader :=
  { r with tokens := t :: r.tokens, count := r.count + 1 }

/-- Puts in a token behind the first `position` ones. -/
def insert (position : Nat) (t : Token) (r : TokenReader) : TokenReader :=
  let newer := r.count - position
  { r with tokens := r.tokens.take newer ++ t :: r.tokens.drop newer, count := r.count + 1 }

def pushMark (n : Nat) (t : Token) (r : TokenReader) : TokenReader :=
  { r.push t with cursor := r.cursor.skip n }

def pushRead (t : Token) (c : Cursor) (r : TokenReader) : TokenReader :=
  { r.push t with cursor := c }

def allowKey (allowed : Bool) (r : TokenReader) : TokenReader := { r with keyAllowed := allowed }

/-! ## Keys -/

/-- Where a key may have begun at the current depth. -/
def keyStart? (r : TokenReader) : Option KeyStart :=
  match r.flowKeys with
  | k :: _ => k
  | [] => r.blockKey

def setKeyStart (k : Option KeyStart) (r : TokenReader) : TokenReader :=
  match r.flowKeys with
  | _ :: outer => { r with flowKeys := k :: outer }
  | [] => { r with blockKey := k }

/-- Gives up a key; one that is required must not be given up. -/
def dropKey (r : TokenReader) : Option TokenReader :=
  match r.keyStart? with
  | some k => if k.required then none else some (r.setKeyStart none)
  | none => some r

def markKey (r : TokenReader) : Option TokenReader :=
  if r.keyAllowed then do
    let r ← r.dropKey
    let c := r.cursor
    some (r.setKeyStart (some
      { required := !r.inFlow && r.indent == c.column
        position := r.count
        index := c.index
        line := c.line
        column := c.column }))
  else some r

/-- Whether a key that began at `k` can still have its colon here. -/
def isCurrent (c : Cursor) (k : KeyStart) : Bool := c.line ≤ k.line && c.index ≤ k.index + 1024

/-- Without a key that began too far back. -/
def freshKey? (c : Cursor) : Option KeyStart → Option (Option KeyStart)
  | some k => if isCurrent c k then some (some k) else if k.required then none else some none
  | none => some none

def dropStaleKeys (r : TokenReader) : Option TokenReader := do
  let blockKey ← freshKey? r.cursor r.blockKey
  let flowKeys ← r.flowKeys.mapM (freshKey? r.cursor)
  some { r with blockKey, flowKeys }

/-! ## Blocks -/

/-- Begins a block at a column, if it stands to the right of the current one.
Its token goes to the given position. -/
def beginBlock (column position : Nat) (t : Token) (r : TokenReader) : TokenReader :=
  if !r.inFlow && r.indent < column then
    { r.insert position t with indent := column, outer := r.indent :: r.outer }
  else r

/-- Ends the blocks to the right of a column. -/
def endBlocks (column : Int) : List Int → TokenReader → TokenReader
  | outer :: rest, r =>
    if column < r.indent then
      endBlocks column rest { r.push .blockEnd with indent := outer, outer := rest }
    else r
  | [], r => r

/-- Inside of brackets indentation does not count. -/
def unindent (column : Int) (r : TokenReader) : TokenReader :=
  if r.inFlow then r else endBlocks column r.outer r

/-! ## Gaps -/

/-- Past blanks, comments and line breaks. A tab does not indent a key. -/
def skipGap : (fuel : Nat) → TokenReader → Option TokenReader
  | 0, _ => none
  | fuel + 1, r =>
    let c := r.cursor
    let c := if c.index = 0 && c.head? = some '\ufeff' then c.skip 1 else c
    let tabs := r.inFlow || !r.keyAllowed
    let c := c.skipWhile fun a => a = ' ' || (tabs && a = '\t')
    let c := if c.head? = some '#' then c.skipWhile (!isBreak ·) else c
    match c.takeBreak? with
    | some (_, c) => skipGap fuel { r with cursor := c, keyAllowed := r.keyAllowed || !r.inFlow }
    | none => some { r with cursor := c }

/-! ## Tokens -/

/-- The end of all blocks, in front of a directive or a document mark. -/
def closeDocument (r : TokenReader) : Option TokenReader :=
  ((r.unindent (-1)).dropKey).map (allowKey false)

def openFlow (t : Token) (r : TokenReader) : Option TokenReader := do
  let r ← r.markKey
  some ({ r with flowKeys := none :: r.flowKeys }.allowKey true |>.pushMark 1 t)

def closeFlow (t : Token) (r : TokenReader) : Option TokenReader := do
  let r ← r.dropKey
  some ({ r with flowKeys := r.flowKeys.drop 1 }.allowKey false |>.pushMark 1 t)

def readFlowEntry (r : TokenReader) : Option TokenReader := do
  some ((← r.dropKey).allowKey true |>.pushMark 1 .flowEntry)

/-- A block mark that stands for itself needs a place where a key could begin. -/
def beginBlockHere (t : Token) (r : TokenReader) : Option TokenReader :=
  if r.inFlow then some r
  else if r.keyAllowed then some (r.beginBlock r.cursor.column r.count t)
  else none

def readBlockEntry (r : TokenReader) : Option TokenReader := do
  let r ← (← r.beginBlockHere .blockSequenceStart).dropKey
  some (r.allowKey true |>.pushMark 1 .blockEntry)

def readKey (r : TokenReader) : Option TokenReader := do
  let r ← (← r.beginBlockHere .blockMappingStart).dropKey
  some (r.allowKey (!r.inFlow) |>.pushMark 1 .key)

def readValue (r : TokenReader) : Option TokenReader :=
  match r.keyStart? with
  | some k =>
    let r := (r.insert k.position .key).beginBlock k.column k.position .blockMappingStart
    some ((r.setKeyStart none).allowKey false |>.pushMark 1 .value)
  | none => do
    let r ← r.beginBlockHere .blockMappingStart
    some (r.allowKey (!r.inFlow) |>.pushMark 1 .value)

def readDirectiveToken (r : TokenReader) : Option TokenReader := do
  let r ← r.closeDocument
  let (t, c) ← readDirective r.cursor
  some (r.pushRead t c)

def readAnchor (token : List Char → Token) (r : TokenReader) : Option TokenReader := do
  let r ← r.markKey
  let (name, c) ← readName r.cursor
  some (r.allowKey false |>.pushRead (token name) c)

def readTagToken (r : TokenReader) : Option TokenReader := do
  let r ← r.markKey
  let (name, c) ← readTag r.inFlow r.cursor
  some (r.allowKey false |>.pushRead (.tag name) c)

def readBlockScalar (style : ScalarStyle) (r : TokenReader) : Option TokenReader := do
  let r ← r.dropKey
  let (s, c) ← Block.read (style = .folded) r.indent r.cursor
  some (r.allowKey true |>.pushRead (.scalar style s) c)

def readQuoted (style : ScalarStyle) (r : TokenReader) : Option TokenReader := do
  let r ← r.markKey
  let (s, c) ← Quoted.read (style = .singleQuoted) r.cursor
  some (r.allowKey false |>.pushRead (.scalar style s) c)

/-- A line that ends behind the scalar makes room for a key. -/
def readPlain (r : TokenReader) : Option TokenReader := do
  let r ← r.markKey
  let (s, broken, c) ← Plain.read r.inFlow (r.indent + 1).toNat r.cursor
  some (r.allowKey broken |>.pushRead (.scalar .plain s) c)

/-- Marks that a plain scalar cannot begin with. -/
def indicators : List Char :=
  ['-', '?', ':', ',', '[', ']', '\x7b', '\x7d', '#', '&', '*', '!', '|', '>', '\'', '"', '%', '@',
   '\x60']

/-- Whether a plain scalar may begin with `a` in front of `rest`. -/
def beginsPlain (inFlow : Bool) (a : Char) (rest : List Char) : Bool :=
  !(isBlank a || indicators.contains a) || (a = '-' && !rest.head?.any isBlank)
    || (!inFlow && (a = '?' || a = ':') && !isGap rest)

def readToken (a : Char) (rest : List Char) (r : TokenReader) : Option TokenReader :=
  let c := r.cursor
  let stands : Bool := r.inFlow || isGap rest
  if c.column = 0 && a = '%' then r.readDirectiveToken
  else if c.column = 0 && isDocumentMark '-' c.rest then
    r.closeDocument.map (pushMark 3 .documentStart)
  else if c.column = 0 && isDocumentMark '.' c.rest then
    r.closeDocument.map (pushMark 3 .documentEnd)
  else if a = '[' then r.openFlow .flowSequenceStart
  else if a = '\x7b' then r.openFlow .flowMappingStart
  else if a = ']' then r.closeFlow .flowSequenceEnd
  else if a = '\x7d' then r.closeFlow .flowMappingEnd
  else if a = ',' then r.readFlowEntry
  else if a = '-' && isGap rest then r.readBlockEntry
  else if a = '?' && stands then r.readKey
  else if a = ':' && stands then r.readValue
  else if a = '*' then r.readAnchor .alias
  else if a = '&' then r.readAnchor .anchor
  else if a = '!' then r.readTagToken
  else if a = '|' && !r.inFlow then r.readBlockScalar .literal
  else if a = '>' && !r.inFlow then r.readBlockScalar .folded
  else if a = '\'' then r.readQuoted .singleQuoted
  else if a = '"' then r.readQuoted .doubleQuoted
  else if beginsPlain r.inFlow a rest then r.readPlain
  else none

/-- Reads on to the end of the text; every token takes at least one character. -/
def readAll : (fuel : Nat) → TokenReader → Option TokenReader
  | 0, _ => none
  | fuel + 1, r => do
    let r ← r.skipGap (r.cursor.rest.length + 1)
    let r := (← r.dropStaleKeys).unindent r.cursor.column
    match r.cursor.rest with
    | [] => (r.unindent (-1)).dropKey
    | a :: rest => readAll fuel (← r.readToken a rest)

end TokenReader

def tokens? (s : List Char) : Option (List Token) :=
  if s.all isAllowed then do
    let r ← TokenReader.readAll (s.length + 1) { cursor := { rest := s } }
    some r.tokens.reverse
  else none

end UsageWatch.Yaml
