import UsageWatch.Json
import UsageWatch.Text.Hex
/-!
# JSON output

Two forms of a value: on one line without blanks, and indented by two spaces a
level. Control characters, quotes and backslashes are escaped; all other
characters stand for themselves.
-/

namespace UsageWatch.Json

def escapeChar (c : Char) : List Char :=
  if c = '"' then ['\\', '"']
  else if c = '\\' then ['\\', '\\']
  else if c = '\n' then ['\\', 'n']
  else if c = '\r' then ['\\', 'r']
  else if c = '\t' then ['\\', 't']
  else if c = '\x08' then ['\\', 'b']
  else if c = '\x0c' then ['\\', 'f']
  else if c.toNat < 32 then ['\\', 'u', '0', '0', Text.lowerHexDigit (c.toNat / 16),
    Text.lowerHexDigit (c.toNat % 16)]
  else [c]

def escape (s : List Char) : List Char := s.flatMap escapeChar

def quoted (s : String) : String := String.ofList ('"' :: escape s.toList ++ ['"'])

/-- A literal without a text is written as an unpaired escape. -/
def literal : Option String → String
  | some s => quoted s
  | none => "\"\\ud800\""

def integerText (negative : Bool) (magnitude : Nat) : String :=
  (if negative then "-" else "") ++ toString magnitude

def decimalText (mantissa exponent : Int) : String := toString mantissa ++ "e" ++ toString exponent

mutual

def compact : Json → String
  | .null => "null"
  | .bool b => if b then "true" else "false"
  | .integer negative n => integerText negative n
  | .decimal m e => decimalText m e
  | .string s => literal s
  | .array items => "[" ++ ",".intercalate (compactItems items) ++ "]"
  | .object members => "\x7b" ++ ",".intercalate (compactMembers members) ++ "\x7d"

def compactItems : List Json → List String
  | [] => []
  | j :: rest => compact j :: compactItems rest

def compactMembers : List (Option String × Json) → List String
  | [] => []
  | (k, j) :: rest => (literal k ++ ":" ++ compact j) :: compactMembers rest

end

/-- Lines of a bracketed list; an empty list stays on one line. -/
def bracketed (opening closing : String) (depth : Nat) (entries : List String) : String :=
  if entries.isEmpty then opening ++ closing
  else
    let margin := "\n".pushn ' ' (2 * (depth + 1))
    opening ++ margin ++ ("," ++ margin).intercalate entries ++ "\n".pushn ' ' (2 * depth) ++ closing

mutual

def prettyAt (depth : Nat) : Json → String
  | .null => "null"
  | .bool b => if b then "true" else "false"
  | .integer negative n => integerText negative n
  | .decimal m e => decimalText m e
  | .string s => literal s
  | .array items => bracketed "[" "]" depth (prettyItems (depth + 1) items)
  | .object members => bracketed "\x7b" "\x7d" depth (prettyMembers (depth + 1) members)

def prettyItems (depth : Nat) : List Json → List String
  | [] => []
  | j :: rest => prettyAt depth j :: prettyItems depth rest

def prettyMembers (depth : Nat) : List (Option String × Json) → List String
  | [] => []
  | (k, j) :: rest => (literal k ++ ": " ++ prettyAt depth j) :: prettyMembers depth rest

end

def pretty (j : Json) : String := prettyAt 0 j

end UsageWatch.Json
