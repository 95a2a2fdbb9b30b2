import UsageWatch.Toml.Token
/-!
# Quoting in TOML

A text is written between single quotes if possible, because nothing is escaped
there. Control characters, three quotes in a row and a quote at the end call
for double quotes, and a line feed calls for tripled ones.
-/

namespace UsageWatch.Toml

def isControl (c : Char) : Bool := c.toNat < 32 || c.toNat = 127

/-- Whether three single quotes stand in a row somewhere. -/
def hasTripleQuote : List Char → Bool
  | [] => false
  | c :: rest => ['\'', '\'', '\''].isPrefixOf (c :: rest) || hasTripleQuote rest

/-- Whether a text can stand between single quotes as it is. -/
def isLiteral (s : List Char) : Bool :=
  s.all (fun c => !isControl c || c = '\t' || c = '\n') && !hasTripleQuote s
    && s.getLast? ≠ some '\''

def escapeChar (c : Char) : List Char :=
  if c = '\x08' then ['\\', 'b']
  else if c = '\t' then ['\\', 't']
  else if c = '\x0c' then ['\\', 'f']
  else if c = '\r' then ['\\', 'r']
  else if c = '"' then ['\\', '"']
  else if c = '\\' then ['\\', '\\']
  else if c = '\n' then ['\n']
  else if isControl c then '\\' :: 'u' :: Text.upperHex 4 c.toNat
  else [c]

def tripled (quote : Char) : List Char := [quote, quote, quote]

def quoted (s : List Char) : List Char :=
  if isLiteral s then
    if s.contains '\n' then tripled '\'' ++ '\n' :: s ++ tripled '\''
    else if s.contains '\'' then tripled '\'' ++ s ++ tripled '\''
    else '\'' :: s ++ ['\'']
  else if s.contains '\n' then tripled '"' ++ '\n' :: s.flatMap escapeChar ++ tripled '"'
  else '"' :: s.flatMap escapeChar ++ ['"']

end UsageWatch.Toml
