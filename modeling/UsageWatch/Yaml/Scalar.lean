import UsageWatch.Yaml.Cursor
/-!
# Scalars

Texts of a document, in the styles they are written in. Where a text goes on
over several lines, a single line break counts as a blank, and of several the
first does not count.
-/

namespace UsageWatch.Yaml

inductive ScalarStyle where
  | plain
  | singleQuoted
  | doubleQuoted
  | literal
  | folded
deriving DecidableEq, Repr

/-- A first line break and the ones behind it, folded. -/
def foldBreaks (first others : List Char) : List Char :=
  if first = ['\n'] then (if others.isEmpty then [' '] else others) else first ++ others

/-- What stands between two pieces of a text. -/
structure Gap where
  /-- Blanks, if no line ends. -/
  blanks : List Char := []
  broken : Bool := false
  first : List Char := []
  others : List Char := []

namespace Gap

def text (g : Gap) : List Char := if g.broken then foldBreaks g.first g.others else g.blanks

def addBlank (c : Char) (g : Gap) : Gap :=
  if g.broken then g else { g with blanks := g.blanks ++ [c] }

/-- A line break; blanks in front of it do not count. -/
def addBreak (b : List Char) (g : Gap) : Gap :=
  if g.broken then { g with others := g.others ++ b }
  else { g with blanks := [], broken := true, first := b }

/-- Reads blanks and line breaks. A tab does not indent a line up to `indent`. -/
def read (indent : Nat) : (fuel : Nat) → Gap → Cursor → Option (Gap × Cursor)
  | 0, _, _ => none
  | fuel + 1, g, c =>
    match c.takeBreak? with
    | some (b, c) => read indent fuel (g.addBreak b) c
    | none =>
      match c.head? with
      | some a =>
        if isBlank a then
          if g.broken && c.column < indent && a = '\t' then none
          else read indent fuel (g.addBlank a) (c.skip 1)
        else some (g, c)
      | none => some (g, c)

end Gap

end UsageWatch.Yaml
