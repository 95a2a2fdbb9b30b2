import UsageWatch.Json
import UsageWatch.Text.Hex
/-!
# JSON input

Reads one value and nothing behind it but blanks. Every step of the reader uses
at least one character, so the length of the text bounds its depth.
-/

namespace UsageWatch.Json

def isSpace (c : Char) : Bool := c = ' ' || c = '\n' || c = '\t' || c = '\r'

def skipSpace (s : List Char) : List Char := s.dropWhile isSpace

def decimalDigit? (c : Char) : Option Nat :=
  if '0' ≤ c ∧ c ≤ '9' then some (c.toNat - 48) else none

/-! ## Strings -/

def simpleEscape? : Char → Option Char
  | '"' => some '"'
  | '\\' => some '\\'
  | '/' => some '/'
  | 'b' => some '\x08'
  | 'f' => some '\x0c'
  | 'n' => some '\n'
  | 'r' => some '\r'
  | 't' => some '\t'
  | _ => none

def isHighSurrogate (u : Nat) : Bool := 0xd800 ≤ u && u < 0xdc00
def isLowSurrogate (u : Nat) : Bool := 0xdc00 ≤ u && u < 0xe000

/-- A piece of a string literal. -/
inductive Unit16 where
  | char (c : Char)
  /-- Half of a surrogate pair. -/
  | high (u : Nat)
  | low (u : Nat)

def Unit16.ofNat (u : Nat) : Unit16 :=
  if isHighSurrogate u then .high u else if isLowSurrogate u then .low u else .char (Char.ofNat u)

/-- The text of the pieces, if every surrogate has its other half. -/
def joinUnits : List Unit16 → Option (List Char)
  | [] => some []
  | .char c :: rest => (joinUnits rest).map (c :: ·)
  | .high u :: .low v :: rest =>
    (joinUnits rest).map (Char.ofNat (0x10000 + (u - 0xd800) * 0x400 + (v - 0xdc00)) :: ·)
  | _ => none

/-- The pieces of a literal up to its closing quote, and what follows it. -/
def readUnits : List Char → Option (List Unit16 × List Char)
  | [] => none
  | '"' :: rest => some ([], rest)
  | '\\' :: 'u' :: a :: b :: c :: d :: rest => do
    let u ← Text.hexValue? [a, b, c, d]
    let (units, rest) ← readUnits rest
    some (.ofNat u :: units, rest)
  | '\\' :: e :: rest => do
    let c ← simpleEscape? e
    let (units, rest) ← readUnits rest
    some (.char c :: units, rest)
  | c :: rest =>
    if c = '\\' || c.toNat < 32 then none
    else do
      let (units, rest) ← readUnits rest
      some (.char c :: units, rest)

def readText (s : List Char) : Option (Option String × List Char) :=
  (readUnits s).map fun (units, rest) => ((joinUnits units).map String.ofList, rest)

/-! ## Numbers -/

def digitsValue (acc : Nat) (ds : List Char) : Nat :=
  ds.foldl (fun n c => n * 10 + (c.toNat - 48)) acc

def isDigit (c : Char) : Bool := (decimalDigit? c).isSome

/-- Digits of a fraction, if a point stands in front. -/
def readFraction : List Char → Option (Option (List Char) × List Char)
  | '.' :: rest =>
    let ds := rest.takeWhile isDigit
    if ds.isEmpty then none else some (some ds, rest.dropWhile isDigit)
  | s => some (none, s)

def signed (sign : Char) (n : Nat) : Int := if sign = '-' then -(n : Int) else n

def readExponent (s : List Char) : Option (Option Int × List Char) :=
  match s with
  | e :: rest =>
    if e = 'e' || e = 'E' then
      let (sign, digits) :=
        match rest with
        | c :: more => if c = '+' || c = '-' then (c, more) else ('+', rest)
        | [] => ('+', [])
      let ds := digits.takeWhile isDigit
      if ds.isEmpty then none
      else some (some (signed sign (digitsValue 0 ds)), digits.dropWhile isDigit)
    else some (none, s)
  | [] => some (none, [])

/-- A number behind its sign. A leading zero stands alone. -/
def readMagnitude (negative : Bool) (s : List Char) : Option (Json × List Char) := do
  let ds := s.takeWhile isDigit
  let rest := s.dropWhile isDigit
  match ds with
  | [] => none
  | '0' :: _ :: _ => none
  | _ =>
    let (fraction, rest) ← readFraction rest
    let (exponent, rest) ← readExponent rest
    match fraction, exponent with
    | none, none =>
      -- Zero has no sign among the whole numbers.
      if negative && digitsValue 0 ds = 0 then some (.decimal 0 0, rest)
      else some (.integer negative (digitsValue 0 ds), rest)
    | _, _ =>
      let ds' := fraction.getD []
      let m := digitsValue (digitsValue 0 ds) ds'
      some (.decimal (if negative then -(m : Int) else m) (exponent.getD 0 - ds'.length), rest)

def readNumber : List Char → Option (Json × List Char)
  | '-' :: rest => readMagnitude true rest
  | s => readMagnitude false s

/-! ## Values -/

/-- `s` without `word` in front. -/
def expect (word : List Char) (s : List Char) : Option (List Char) :=
  match word, s with
  | [], s => some s
  | _ :: _, [] => none
  | w :: word, c :: s => if w = c then expect word s else none

mutual

def readValue : (fuel : Nat) → List Char → Option (Json × List Char)
  | 0, _ => none
  | fuel + 1, s =>
    match skipSpace s with
    | [] => none
    | c :: rest =>
      if c = '"' then (readText rest).map fun (t, rest) => (.string t, rest)
      else if c = '[' then
        match skipSpace rest with
        | ']' :: rest => some (.array [], rest)
        | rest => (readItems fuel rest).map fun (items, rest) => (.array items, rest)
      else if c = '\x7b' then
        match skipSpace rest with
        | '\x7d' :: rest => some (.object [], rest)
        | rest => (readMembers fuel rest).map fun (members, rest) => (.object members, rest)
      else if c = 'n' then (expect ['u', 'l', 'l'] rest).map (.null, ·)
      else if c = 't' then (expect ['r', 'u', 'e'] rest).map (.bool true, ·)
      else if c = 'f' then (expect ['a', 'l', 's', 'e'] rest).map (.bool false, ·)
      else readNumber (c :: rest)

def readItems : (fuel : Nat) → List Char → Option (List Json × List Char)
  | 0, _ => none
  | fuel + 1, s => do
    let (j, rest) ← readValue fuel s
    match skipSpace rest with
    | ',' :: rest =>
      let (items, rest) ← readItems fuel rest
      some (j :: items, rest)
    | ']' :: rest => some ([j], rest)
    | _ => none

def readMembers : (fuel : Nat) → List Char → Option (List (Option String × Json) × List Char)
  | 0, _ => none
  | fuel + 1, s =>
    match skipSpace s with
    | '"' :: rest => do
      let (key, rest) ← readText rest
      match skipSpace rest with
      | ':' :: rest =>
        let (j, rest) ← readValue fuel rest
        match skipSpace rest with
        | ',' :: rest =>
          let (members, rest) ← readMembers fuel rest
          some ((key, j) :: members, rest)
        | '\x7d' :: rest => some ([(key, j)], rest)
        | _ => none
      | _ => none
    | _ => none

end

def parse? (s : String) : Option Json := do
  let cs := s.toList
  let (j, rest) ← readValue (cs.length + 1) cs
  if (skipSpace rest).isEmpty then some j else none

end UsageWatch.Json
