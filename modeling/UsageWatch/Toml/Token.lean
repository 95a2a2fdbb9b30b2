import UsageWatch.Text.Hex
/-!
# TOML tokens

A document is read as a list of tokens. Comments leave no token behind, and a
carriage return in front of a line feed does not count.
-/

namespace UsageWatch.Toml

inductive Token where
  | newline
  /-- Blanks and tabs; `single` if there is just one blank. -/
  | blank (single : Bool)
  | equals
  | dot
  | comma
  | colon
  | plus
  | openBrace
  | closeBrace
  | openBracket
  | closeBracket
  /-- Letters, digits, underscores and hyphens. -/
  | word (s : List Char)
  | text (s : List Char) (multiline : Bool)
deriving DecidableEq, Repr

/-! ## Characters -/

def foldLineEnds : List Char → List Char
  | [] => []
  | '\r' :: '\n' :: rest => '\n' :: foldLineEnds rest
  | c :: rest => c :: foldLineEnds rest

def isBlank (c : Char) : Bool := c = ' ' || c = '\t'

def isWordChar (c : Char) : Bool :=
  ('a' ≤ c && c ≤ 'z') || ('A' ≤ c && c ≤ 'Z') || ('0' ≤ c && c ≤ '9') || c = '-' || c = '_'

/-- Characters that stand for themselves on a line of a quoted text. -/
def isPlain (c : Char) : Bool := c = '\t' || (32 ≤ c.toNat && c.toNat ≠ 127)

def isCommentChar (c : Char) : Bool := c = '\t' || 32 ≤ c.toNat

def punctuation? : Char → Option Token
  | '\n' => some .newline
  | '=' => some .equals
  | '.' => some .dot
  | ',' => some .comma
  | ':' => some .colon
  | '+' => some .plus
  | '\x7b' => some .openBrace
  | '\x7d' => some .closeBrace
  | '[' => some .openBracket
  | ']' => some .closeBracket
  | _ => none

/-! ## Quoted texts

Each reader starts behind the opening quotes and returns the text and what
follows the closing quotes.
-/

/-- Quotes right behind closing ones belong to the text, but not more than two. -/
def extraQuotes (quote : Char) (rest : List Char) : List Char × List Char :=
  let extra := (rest.takeWhile (· = quote)).take 2
  (extra, rest.drop extra.length)

def literalLine : List Char → Option (List Char × List Char)
  | [] => none
  | c :: rest =>
    if c = '\'' then some ([], rest)
    else if isPlain c then (literalLine rest).map fun (s, rest) => (c :: s, rest)
    else none

def literalLines : List Char → Option (List Char × List Char)
  | [] => none
  | '\'' :: '\'' :: '\'' :: rest => some (extraQuotes '\'' rest)
  | c :: rest =>
    if c = '\n' || isPlain c then (literalLines rest).map fun (s, rest) => (c :: s, rest) else none

def simpleEscape? : Char → Option Char
  | '"' => some '"'
  | '\\' => some '\\'
  | 'b' => some '\x08'
  | 'f' => some '\x0c'
  | 'n' => some '\n'
  | 'r' => some '\r'
  | 't' => some '\t'
  | _ => none

/-- Where a reader of escaped text stands. -/
inductive Place where
  | inside
  /-- Behind a backslash at the end of a line, before the line ends. -/
  | lineEnd
  /-- In the blanks and empty lines behind such a line end. -/
  | margin
deriving DecidableEq, Repr

def escapedLine : List Char → Option (List Char × List Char)
  | [] => none
  | '\\' :: 'u' :: a :: b :: c :: d :: rest => do
    let e ← Text.charOfNat? (← Text.hexValue? [a, b, c, d])
    (escapedLine rest).map fun (s, rest) => (e :: s, rest)
  | '\\' :: 'U' :: a :: b :: c :: d :: e :: f :: g :: h :: rest => do
    let e ← Text.charOfNat? (← Text.hexValue? [a, b, c, d, e, f, g, h])
    (escapedLine rest).map fun (s, rest) => (e :: s, rest)
  | '\\' :: e :: rest => do
    let e ← simpleEscape? e
    (escapedLine rest).map fun (s, rest) => (e :: s, rest)
  | c :: rest =>
    if c = '"' then some ([], rest)
    else if c ≠ '\\' && isPlain c then (escapedLine rest).map fun (s, rest) => (c :: s, rest)
    else none

def escapedLines : Place → List Char → Option (List Char × List Char)
  | _, [] => none
  | .lineEnd, c :: rest =>
    if c = '\n' then escapedLines .margin rest
    else if isBlank c then escapedLines .lineEnd rest
    else none
  | _, '\\' :: 'u' :: a :: b :: c :: d :: rest => do
    let e ← Text.charOfNat? (← Text.hexValue? [a, b, c, d])
    (escapedLines .inside rest).map fun (s, rest) => (e :: s, rest)
  | _, '\\' :: 'U' :: a :: b :: c :: d :: e :: f :: g :: h :: rest => do
    let e ← Text.charOfNat? (← Text.hexValue? [a, b, c, d, e, f, g, h])
    (escapedLines .inside rest).map fun (s, rest) => (e :: s, rest)
  | _, '\\' :: e :: rest =>
    if e = '\n' then escapedLines .margin rest
    else if isBlank e then escapedLines .lineEnd rest
    else do
      let e ← simpleEscape? e
      (escapedLines .inside rest).map fun (s, rest) => (e :: s, rest)
  | _, '"' :: '"' :: '"' :: rest => some (extraQuotes '"' rest)
  | place, c :: rest =>
    if place = .margin && (c = '\n' || isBlank c) then escapedLines .margin rest
    else if c ≠ '\\' && (c = '\n' || isPlain c) then
      (escapedLines .inside rest).map fun (s, rest) => (c :: s, rest)
    else none

/-- A line feed right behind the opening quotes does not count. -/
def dropNewline : List Char → List Char
  | '\n' :: rest => rest
  | s => s

def readQuoted : List Char → Option (Token × List Char)
  | '\'' :: '\'' :: '\'' :: rest =>
    (literalLines (dropNewline rest)).map fun (s, rest) => (.text s true, rest)
  | '\'' :: rest => (literalLine rest).map fun (s, rest) => (.text s false, rest)
  | '"' :: '"' :: '"' :: rest =>
    (escapedLines .inside (dropNewline rest)).map fun (s, rest) => (.text s true, rest)
  | '"' :: rest => (escapedLine rest).map fun (s, rest) => (.text s false, rest)
  | _ => none

/-! ## Documents -/

/-- The tokens of a text; every token takes at least one character. -/
def readTokens : (fuel : Nat) → List Char → Option (List Token)
  | _, [] => some []
  | 0, _ :: _ => none
  | fuel + 1, c :: rest =>
    match punctuation? c with
    | some t => (readTokens fuel rest).map (t :: ·)
    | none =>
      if isBlank c then
        (readTokens fuel (rest.dropWhile isBlank)).map
          (.blank (c = ' ' && !(rest.head?.any isBlank)) :: ·)
      else if isWordChar c then
        (readTokens fuel (rest.dropWhile isWordChar)).map
          (.word (c :: rest.takeWhile isWordChar) :: ·)
      else if c = '#' then readTokens fuel (rest.dropWhile isCommentChar)
      else do
        let (t, rest) ← readQuoted (c :: rest)
        (readTokens fuel rest).map (t :: ·)

/-- The tokens of a document. A byte order mark in front does not count. -/
def tokens? (s : List Char) : Option (List Token) :=
  let s :=
    match s with
    | '\ufeff' :: rest => rest
    | s => s
  let s := foldLineEnds s
  readTokens s.length s

end UsageWatch.Toml
