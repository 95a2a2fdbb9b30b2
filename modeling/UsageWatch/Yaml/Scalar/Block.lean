import UsageWatch.Yaml.Scalar
/-!
# Block scalars

Texts as indented lines under a header. The header may give the indentation,
which otherwise is that of the first line with something on it, and what
becomes of the line breaks at the end.
-/

namespace UsageWatch.Yaml.Block

inductive Chomping where
  /-- No line break at the end. -/
  | strip
  /-- One line break at the end. -/
  | clip
  /-- All line breaks at the end. -/
  | keep
deriving DecidableEq, Repr

structure Header where
  chomping : Chomping := .clip
  /-- Indentation beyond that of the surrounding block. -/
  increment : Option Nat := none

def chomping? : Char → Option Chomping
  | '+' => some .keep
  | '-' => some .strip
  | _ => none

def increment? (c : Char) : Option Nat := if '1' ≤ c ∧ c ≤ '9' then some (c.toNat - 48) else none

/-- The indicators behind the mark of a block scalar, in either order. -/
def readHeader (c : Cursor) : Option (Header × Cursor) :=
  let isZero (c : Cursor) : Bool := c.head? = some '0'
  match c.head?.bind chomping? with
  | some chomping =>
    let c := c.skip 1
    match c.head?.bind increment? with
    | some n => some (⟨chomping, some n⟩, c.skip 1)
    | none => if isZero c then none else some (⟨chomping, none⟩, c)
  | none =>
    match c.head?.bind increment? with
    | some n =>
      let c := c.skip 1
      match c.head?.bind chomping? with
      | some chomping => some (⟨chomping, some n⟩, c.skip 1)
      | none => some (⟨.clip, some n⟩, c)
    | none => if isZero c then none else some ({}, c)

/-- Past blanks up to a column, or past all of them. -/
def skipMargin (indent : Option Nat) (c : Cursor) : Cursor :=
  let spaces := (c.rest.takeWhile (· = ' ')).length
  c.skip (indent.elim spaces fun n => min spaces (n - c.column))

/-- Reads empty lines and the margin of the next line. Returns the line breaks,
the deepest column met, and where the next line begins. -/
def readMargin (indent : Option Nat) :
    (fuel : Nat) → (deepest : Nat) → (breaks : List Char) → Cursor → Option (List Char × Nat × Cursor)
  | 0, _, _, _ => none
  | fuel + 1, deepest, breaks, c =>
    let c := skipMargin indent c
    let deepest := max deepest c.column
    if indent.all (c.column < ·) && c.head? = some '\t' then none
    else
      match c.takeBreak? with
      | some (b, c) => readMargin indent fuel deepest (breaks ++ b) c
      | none => some (breaks, deepest, c)

/-- A text so far, and the line breaks behind it. -/
structure Lines where
  text : List Char := []
  first : List Char := []
  others : List Char := []
  /-- Whether the last line began with a blank, so that it is not folded. -/
  indented : Bool := false

/-- The text with the line breaks in front of another line. -/
def Lines.joined (folded indented : Bool) (l : Lines) : List Char :=
  if folded && l.first = ['\n'] && !l.indented && !indented then
    l.text ++ foldBreaks l.first l.others
  else l.text ++ l.first ++ l.others

def Lines.chomped (chomping : Chomping) (l : Lines) : List Char :=
  match chomping with
  | .strip => l.text
  | .clip => l.text ++ l.first
  | .keep => l.text ++ l.first ++ l.others

def readLines (folded : Bool) (indent : Nat) : (fuel : Nat) → Lines → Cursor → Option (Lines × Cursor)
  | 0, _, _ => none
  | fuel + 1, l, c =>
    if c.column = indent && !c.rest.isEmpty then do
      let indented := c.head?.any isBlank
      let line := c.rest.takeWhile (!isBreak ·)
      let c := c.skip line.length
      let (first, c) := c.takeBreak?.getD ([], c)
      let (others, _, c) ← readMargin (some indent) (c.rest.length + 1) 0 [] c
      readLines folded indent fuel ⟨l.joined folded indented ++ line, first, others, indented⟩ c
    else some (l, c)

def read (folded : Bool) (outer : Int) (c : Cursor) : Option (List Char × Cursor) := do
  let (header, c) ← readHeader (c.skip 1)
  let c := (← c.skipToLineEnd?).skipBreak
  let fuel := c.rest.length + 1
  let given := header.increment.map fun n => if 0 ≤ outer then outer.toNat + n else n
  let (breaks, deepest, c) ← readMargin given fuel 0 [] c
  let indent := given.getD (max (max deepest (outer + 1).toNat) 1)
  let (l, c) ← readLines folded indent fuel { others := breaks } c
  some (l.chomped header.chomping, c)

end UsageWatch.Yaml.Block
