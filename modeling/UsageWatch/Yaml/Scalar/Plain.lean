import UsageWatch.Yaml.Scalar
/-!
# Plain scalars

Texts without quotes. They end at a colon with a gap behind it, at a comment,
at a document mark, and in a block where a line is indented less; inside
brackets also at the marks of the surrounding collection.
-/

namespace UsageWatch.Yaml.Plain

def isFlowMark (c : Char) : Bool := c = ',' || c = '[' || c = ']' || c = '{' || c = '}'

/-- Characters that must not follow a colon inside brackets. -/
def isColonStop (c : Char) : Bool := isFlowMark c || c = '?'

/-- Characters up to the next gap or mark. -/
def readPiece (inFlow : Bool) : List Char → Option (List Char)
  | [] => some []
  | c :: rest =>
    if isBlank c || isBreak c then some []
    else if c = ':' && inFlow && rest.head?.any isColonStop then none
    else if (c = ':' && isGap rest) || (inFlow && isFlowMark c) then some []
    else (readPiece inFlow rest).map (c :: ·)

/-- Reads on behind `text` and a gap. Also says whether a line ended after the text. -/
def readFrom (inFlow : Bool) (indent : Nat) :
    (fuel : Nat) → (text : List Char) → Gap → Cursor → Option (List Char × Bool × Cursor)
  | 0, _, _, _ => none
  | fuel + 1, text, gap, c =>
    if c.atDocumentMark || c.head? = some '#' then some (text, gap.broken, c)
    else do
      let piece ← readPiece inFlow c.rest
      if piece.isEmpty then some (text, gap.broken, c)
      else
        let text := text ++ gap.text ++ piece
        let c := c.skip piece.length
        if !c.rest.isEmpty && isGap c.rest then
          let (gap, c) ← Gap.read indent (c.rest.length + 1) {} c
          if !inFlow && c.column < indent then some (text, gap.broken, c)
          else readFrom inFlow indent fuel text gap c
        else some (text, false, c)

def read (inFlow : Bool) (indent : Nat) (c : Cursor) : Option (List Char × Bool × Cursor) :=
  readFrom inFlow indent (c.rest.length + 1) [] {} c

end UsageWatch.Yaml.Plain
