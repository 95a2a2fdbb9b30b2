import UsageWatch.Text.Utf8
import UsageWatch.Yaml.Scalar.Block
import UsageWatch.Yaml.Scalar.Plain
import UsageWatch.Yaml.Scalar.Quoted
/-!
# Tokens

The marks and words of a text, with the beginning and end of every block made
explicit.
-/

namespace UsageWatch.Yaml

/-- A tag by a handle and what follows it; a verbatim tag has no handle. -/
structure TagName where
  handle : List Char
  suffix : List Char
deriving DecidableEq, Repr

inductive Token where
  | versionDirective (major minor : Nat)
  | tagDirective (handle start : List Char)
  | documentStart
  | documentEnd
  | blockSequenceStart
  | blockMappingStart
  | blockEnd
  | flowSequenceStart
  | flowSequenceEnd
  | flowMappingStart
  | flowMappingEnd
  | blockEntry
  | flowEntry
  | key
  | value
  | alias (name : List Char)
  | anchor (name : List Char)
  | tag (name : TagName)
  | scalar (style : ScalarStyle) (text : List Char)
deriving DecidableEq, Repr

/-! ## Anchors -/

/-- Whether the name of an anchor may end here. -/
def isNameEnd : List Char → Bool
  | [] => true
  | c :: _ =>
    isBlank c || isBreak c || ['?', ':', ',', ']', '\x7d', '%', '@', '\x60'].contains c

def readName (c : Cursor) : Option (List Char × Cursor) :=
  let c := c.skip 1
  let name := c.rest.takeWhile isNameChar
  let c := c.skip name.length
  if !name.isEmpty && isNameEnd c.rest then some (name, c) else none

/-! ## Tags -/

def tagMarks : List Char :=
  [';', '/', '?', ':', '@', '&', '=', '+', '$', '.', '!', '~', '*', '\'', '(', ')']

def isTagChar (verbatim : Bool) (c : Char) : Bool :=
  isNameChar c || tagMarks.contains c || (verbatim && [',', '[', ']'].contains c)

/-- Number of bytes of a character, by the first of them. -/
def byteCount? (n : Nat) : Option Nat :=
  if n < 0x80 then some 1
  else if 0xc0 ≤ n && n < 0xe0 then some 2
  else if 0xe0 ≤ n && n < 0xf0 then some 3
  else if 0xf0 ≤ n && n < 0xf8 then some 4
  else none

/-- A percent sign and two hex digits. -/
def readByte : List Char → Option (Nat × List Char)
  | '%' :: a :: b :: rest => do
    let n ← Text.hexValue? [a, b]
    some (n, rest)
  | _ => none

/-- The bytes of a character behind its first one. -/
def readMoreBytes : (count : Nat) → List Char → Option (List UInt8 × List Char)
  | 0, s => some ([], s)
  | count + 1, s => do
    let (n, s) ← readByte s
    if 0x80 ≤ n && n < 0xc0 then
      let (bytes, s) ← readMoreBytes count s
      some (UInt8.ofNat n :: bytes, s)
    else none

/-- A character written as percent signs and hex digits. -/
def readEscapedChar (s : List Char) : Option (List Char × List Char) := do
  let (n, s) ← readByte s
  let (bytes, s) ← readMoreBytes ((← byteCount? n) - 1) s
  some (Text.decodeLossy (UInt8.ofNat n :: bytes), s)

/-- Characters of a tag as far as they go. -/
def readTagText (verbatim : Bool) : (fuel : Nat) → Cursor → Option (List Char × Cursor)
  | 0, _ => none
  | fuel + 1, c =>
    match c.rest with
    | [] => some ([], c)
    | a :: _ =>
      if a = '%' then do
        let (cs, rest) ← readEscapedChar c.rest
        let (more, c) ← readTagText verbatim fuel (c.skip (c.rest.length - rest.length))
        some (cs ++ more, c)
      else if isTagChar verbatim a then
        (readTagText verbatim fuel (c.skip 1)).map fun (more, c) => (a :: more, c)
      else some ([], c)

def readTagText1 (verbatim : Bool) (c : Cursor) : Option (List Char × Cursor) := do
  let (s, c) ← readTagText verbatim (c.rest.length + 1) c
  if s.isEmpty then none else some (s, c)

/-- A handle: an exclamation mark, a name, and a second mark if there is one. -/
def readHandle (c : Cursor) : Option (List Char × Cursor) :=
  if c.head? = some '!' then
    let c := c.skip 1
    let name := c.rest.takeWhile isNameChar
    let c := c.skip name.length
    if c.head? = some '!' then some ('!' :: name ++ ['!'], c.skip 1) else some ('!' :: name, c)
  else none

def isHandle (h : List Char) : Bool := 2 ≤ h.length && h.getLast? = some '!'

/-- A tag in its short form. Without a second mark the name belongs to the suffix. -/
def readShortTag (c : Cursor) : Option (TagName × Cursor) := do
  let (handle, c) ← readHandle c
  if isHandle handle then
    let (suffix, c) ← readTagText1 false c
    some (⟨handle, suffix⟩, c)
  else
    let (more, c) ← readTagText false (c.rest.length + 1) c
    let suffix := handle.drop 1 ++ more
    if suffix.isEmpty then some (⟨[], ['!']⟩, c) else some (⟨['!'], suffix⟩, c)

def readVerbatimTag (c : Cursor) : Option (TagName × Cursor) := do
  let (suffix, c) ← readTagText1 true (c.skip 2)
  if c.head? = some '>' then some (⟨[], suffix⟩, c.skip 1) else none

/-- A tag, which a gap follows, or inside brackets a comma. -/
def readTag (inFlow : Bool) (c : Cursor) : Option (TagName × Cursor) := do
  let (name, c) ← if (c.rest.drop 1).head? = some '<' then readVerbatimTag c else readShortTag c
  if isGap c.rest || (inFlow && c.head? = some ',') then some (name, c) else none

/-! ## Directives -/

def readVersionNumber (c : Cursor) : Option (Nat × Cursor) :=
  let ds := c.rest.takeWhile fun d => '0' ≤ d && d ≤ '9'
  if ds.isEmpty || 9 < ds.length then none
  else some (ds.foldl (fun n d => n * 10 + (d.toNat - 48)) 0, c.skip ds.length)

def readVersion (c : Cursor) : Option (Token × Cursor) := do
  let (major, c) ← readVersionNumber (c.skipWhile isBlank)
  if c.head? = some '.' then
    let (minor, c) ← readVersionNumber (c.skip 1)
    some (.versionDirective major minor, c)
  else none

def readTagDirective (c : Cursor) : Option (Token × Cursor) := do
  let (handle, c) ← readHandle (c.skipWhile isBlank)
  if (handle = ['!'] || isHandle handle) && c.head?.any isBlank then
    let (start, c) ← readTagText1 true (c.skipWhile isBlank)
    if isGap c.rest then some (.tagDirective handle start, c) else none
  else none

def readDirective (c : Cursor) : Option (Token × Cursor) := do
  let c := c.skip 1
  let name := c.rest.takeWhile isNameChar
  let c := c.skip name.length
  if name.isEmpty || !isGap c.rest then none
  else
    let (t, c) ←
      if name = ['Y', 'A', 'M', 'L'] then readVersion c
      else if name = ['T', 'A', 'G'] then readTagDirective c
      else none
    some (t, (← c.skipToLineEnd?).skipBreak)

end UsageWatch.Yaml
