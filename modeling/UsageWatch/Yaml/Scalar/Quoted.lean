import UsageWatch.Text.Hex
import UsageWatch.Yaml.Scalar
/-!
# Quoted scalars

Between single quotes only the quote is special, and written twice. Between
double quotes a backslash begins an escape.
-/

namespace UsageWatch.Yaml.Quoted

/-- The escapes of a single character, which the printer chooses among as well. -/
def simpleEscapes : List (Char × Char) :=
  [('0', '\x00'), ('a', '\x07'), ('b', '\x08'), ('t', '\t'), ('n', '\n'), ('v', '\x0b'), ('f', '\x0c'),
   ('r', '\r'), ('e', '\x1b'), ('"', '"'), ('\\', '\\'), ('N', '\x85'), ('_', '\xa0'), ('L', '\u2028'),
   ('P', '\u2029')]

/-- Escapes that are read but never written. -/
def furtherEscapes : List (Char × Char) := [('\t', '\t'), (' ', ' '), ('/', '/')]

/-- Number of hex digits behind the mark of a numbered character. -/
def escapeLength? : Char → Option Nat
  | 'x' => some 2
  | 'u' => some 4
  | 'U' => some 8
  | _ => none

/-- The character of an escape behind its backslash, and the length of the escape. -/
def readEscape : List Char → Option (Char × Nat)
  | [] => none
  | mark :: rest =>
    match escapeLength? mark with
    | some n =>
      if (rest.take n).length = n then do
        some (← Text.charOfNat? (← Text.hexValue? (rest.take n)), n + 1)
      else none
    | none => ((simpleEscapes ++ furtherEscapes).lookup mark).map (·, 1)

/-- What ends a piece of a quoted text. -/
inductive PieceEnd where
  | quote
  | gap
  /-- A backslash at the end of a line. -/
  | escapedBreak
deriving DecidableEq

/-- Characters up to the next gap or the closing quote. -/
def readPiece (single : Bool) : (fuel : Nat) → Cursor → Option (List Char × PieceEnd × Cursor)
  | 0, _ => none
  | fuel + 1, c =>
    match c.rest with
    | [] => some ([], .gap, c)
    | a :: rest =>
      let next (kept : Char) (n : Nat) : Option (List Char × PieceEnd × Cursor) :=
        (readPiece single fuel (c.skip n)).map fun (cs, stop, c) => (kept :: cs, stop, c)
      if isBlank a || isBreak a then some ([], .gap, c)
      else if single && a = '\'' then
        if rest.head? = some '\'' then next '\'' 2 else some ([], .quote, c.skip 1)
      else if !single && a = '"' then some ([], .quote, c.skip 1)
      else if !single && a = '\\' then
        if rest.head?.any isBreak then some ([], .escapedBreak, (c.skip 1).skipBreak)
        else do
          let (kept, n) ← readEscape rest
          next kept (n + 1)
      else next a 1

/-- Reads on behind `text` up to the closing quote. No document mark may begin a line. -/
def readFrom (single : Bool) :
    (fuel : Nat) → (text : List Char) → Cursor → Option (List Char × Cursor)
  | 0, _, _ => none
  | fuel + 1, text, c =>
    if c.atDocumentMark || c.rest.isEmpty then none
    else do
      let (piece, stop, c) ← readPiece single (c.rest.length + 1) c
      let text := text ++ piece
      match stop with
      | .quote => some (text, c)
      | .gap =>
        let (gap, c) ← Gap.read 0 (c.rest.length + 1) {} c
        readFrom single fuel (text ++ gap.text) c
      | .escapedBreak =>
        let (gap, c) ← Gap.read 0 (c.rest.length + 1) { broken := true } c
        readFrom single fuel (text ++ gap.text) c

def read (single : Bool) (c : Cursor) : Option (List Char × Cursor) :=
  let c := c.skip 1
  readFrom single (c.rest.length + 1) [] c

end UsageWatch.Yaml.Quoted
