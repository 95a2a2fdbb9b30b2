import UsageWatch.Yaml.Resolution
import UsageWatch.Yaml.Scalar.Quoted
/-!
# Writing texts

A text is written plainly where that reads back, else between single quotes,
else between double quotes with escapes. A text with line feeds is a literal
block if possible. Lines are never folded.
-/

namespace UsageWatch.Yaml

/-! ## What a text holds -/

/-- Characters that need no escape. -/
def isPrintable (c : Char) : Bool :=
  let n := c.toNat
  n = 0x0a || (0x20 ≤ n && n ≤ 0x7e) || (0xa0 ≤ n && n ≠ 0xfeff && n ≠ 0xfffe && n ≠ 0xffff)

/-- Whether two neighbours satisfy `p`. -/
def hasNeighbours (p : Char → Char → Bool) : List Char → Bool
  | a :: b :: rest => p a b || hasNeighbours p (b :: rest)
  | _ => false

/-- Gaps as they count around an indicator. -/
def isGapChar (c : Char) : Bool := isBlank c || isBreak c || c = '\x00'

def beginsWithGap (s : List Char) : Bool := s.head?.all isGapChar

/-- First characters that always call for quotes. -/
def leadingIndicators : List Char :=
  ['#', ',', '[', ']', '\x7b', '\x7d', '&', '*', '!', '|', '>', '\'', '"', '%', '@', '\x60']

def beginsWithIndicator : List Char → Bool
  | [] => false
  | c :: rest =>
    leadingIndicators.contains c || ((c = '?' || c = ':' || c = '-') && beginsWithGap rest)

def beginsWithMark (s : List Char) : Bool := s.take 3 = ['-', '-', '-'] || s.take 3 = ['.', '.', '.']

/-- A colon in front of a gap, behind the first character. -/
def hasColonStop : List Char → Bool
  | [] => false
  | _ :: rest =>
    hasNeighbours (fun a b => a = ':' && isGapChar b) rest || rest.getLast? = some ':'

def hasIndicator (s : List Char) : Bool :=
  beginsWithMark s || beginsWithIndicator s || hasColonStop s
    || hasNeighbours (fun a b => isGapChar a && b = '#') s

def isEdge (c : Char) : Bool := c = ' ' || isBreak c

/-! ## Styles -/

def fitsSingleQuotes (s : List Char) : Bool :=
  s.all isPrintable && !hasNeighbours (fun a b => isBreak a && b = ' ') s
    && !hasNeighbours (fun a b => a = ' ' && isBreak b) s

def fitsPlain (s : List Char) : Bool :=
  s.all isPrintable && !s.any isBreak && !s.head?.any isEdge && !s.getLast?.any isEdge
    && !hasIndicator s

def fitsLiteral (s : List Char) : Bool :=
  s.all isPrintable && s.getLast? ≠ some ' ' && !hasNeighbours (fun a b => a = ' ' && isBreak b) s

def styleOf (s : List Char) : ScalarStyle :=
  if s.contains '\n' then (if fitsLiteral s then .literal else .doubleQuoted)
  else if !isAmbiguous s && fitsPlain s then .plain
  else if fitsSingleQuotes s then .singleQuoted
  else .doubleQuoted

/-! ## Text -/

def escapeChar (c : Char) : List Char :=
  if isPrintable c && !isBreak c && c ≠ '"' && c ≠ '\\' then [c]
  else
    match Quoted.simpleEscapes.find? (·.2 = c) with
    | some (mark, _) => ['\\', mark]
    | none =>
      if c.toNat < 0x100 then '\\' :: 'x' :: Text.upperHex 2 c.toNat
      else if c.toNat < 0x10000 then '\\' :: 'u' :: Text.upperHex 4 c.toNat
      else '\\' :: 'U' :: Text.upperHex 8 c.toNat

def doubleQuoted (s : List Char) : List Char := '"' :: s.flatMap escapeChar ++ ['"']

/-- Text between single quotes. Behind a line break the margin is filled up. -/
def singleQuotedFrom (margin : List Char) (atMargin : Bool) : List Char → List Char
  | [] => if atMargin then margin else []
  | c :: rest =>
    if isBreak c then c :: singleQuotedFrom margin true rest
    else
      (if atMargin then margin else []) ++ (if c = '\'' then ['\'', '\''] else [c])
        ++ singleQuotedFrom margin false rest

def singleQuoted (margin : List Char) (s : List Char) : List Char :=
  '\'' :: singleQuotedFrom margin false s ++ ['\'']

/-- The header of a literal block: the indentation, if the text itself begins
with a gap, and what becomes of the line breaks at the end. -/
def literalHeader (margin : List Char) (s : List Char) : List Char :=
  let hint := if s.head?.any isEdge then (toString margin.length).toList else []
  let chomping :=
    match s.reverse with
    | [] => ['-']
    | a :: before =>
      if !isBreak a then ['-']
      else if before.head?.all isBreak then ['+']
      else []
  '|' :: hint ++ chomping

def literalLines (margin : List Char) (atMargin : Bool) : List Char → List Char
  | [] => []
  | c :: rest =>
    if isBreak c then c :: literalLines margin true rest
    else (if atMargin then margin else []) ++ c :: literalLines margin false rest

/-- A text in its style, as the value of a key, with the end of its line. -/
def writeText (margin s : List Char) : List Char :=
  match styleOf s with
  | .plain => s ++ ['\n']
  | .singleQuoted => singleQuoted margin s ++ ['\n']
  | .literal =>
    literalHeader margin s ++ '\n' :: literalLines margin true s
      ++ (if s.getLast?.any isBreak then [] else ['\n'])
  | _ => doubleQuoted s ++ ['\n']

end UsageWatch.Yaml
