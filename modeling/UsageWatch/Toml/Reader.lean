import UsageWatch.Toml.Numeral
/-!
# TOML values and lines

Reads values, keys and lines from tokens. A value takes at least one token, so
the number of tokens bounds the depth of the reader.
-/

namespace UsageWatch.Toml

abbrev Tokens := List Token

def skipBlank : Tokens → Tokens
  | .blank _ :: ts => ts
  | ts => ts

/-- Blanks and line ends between the items of an array. -/
def skipLines : Tokens → Tokens
  | .blank _ :: ts => skipLines ts
  | .newline :: ts => skipLines ts
  | ts => ts

/-! ## Numbers and dates -/

/-- An exponent behind its mark; its digits may be a word of their own. -/
def readExponent (s : List Char) (ts : Tokens) : Option (Int × Tokens) :=
  match s with
  | [] =>
    let ts :=
      match ts with
      | .plus :: ts => ts
      | ts => ts
    match ts with
    | .word w :: ts =>
      match readDigits 10 true w with
      | some (ds, []) => some (exponentOf false ds, ts)
      | _ => none
    | _ => none
  | s =>
    let (negative, s) := readMinus s
    match readDigits 10 true s with
    | some (ds, []) => some (exponentOf negative ds, ts)
    | _ => none

/-- What follows the digits of a number with a fraction or an exponent. -/
def finishReal (whole fraction : List Nat) (suffix : List Char) (ts : Tokens) :
    Option (Toml × Tokens) :=
  match suffix with
  | [] => (real? whole fraction 0).map (·, ts)
  | e :: s =>
    if e = 'e' || e = 'E' then do
      let (exponent, ts) ← readExponent s ts
      (real? whole fraction exponent).map (·, ts)
    else none

def readNumber (s : List Char) (ts : Tokens) : Option (Toml × Tokens) :=
  match s with
  | '0' :: 'x' :: ds => (basedInteger? 16 ds).map (·, ts)
  | '0' :: 'o' :: ds => (basedInteger? 8 ds).map (·, ts)
  | '0' :: 'b' :: ds => (basedInteger? 2 ds).map (·, ts)
  | s =>
    if s.contains 'e' || s.contains 'E' then do
      let (whole, suffix) ← readDigits 10 false (readMinus s).2
      finishReal whole [] suffix ts
    else
      match ts with
      | .dot :: ts =>
        match ts with
        | .word after :: ts =>
          match readDigits 10 false (readMinus s).2 with
          | some (whole, []) => do
            let (fraction, suffix) ← readDigits 10 true after
            finishReal whole fraction suffix ts
          | _ => none
        | _ => none
      | ts =>
        if (readMinus s).2 = ['i', 'n', 'f'] || (readMinus s).2 = ['n', 'a', 'n'] then some (.real, ts)
        else (decimalInteger? s).map (·, ts)

/-- A word that has to be there. -/
def expectWord : Tokens → Option Tokens
  | .word _ :: ts => some ts
  | _ => none

/-- A mark and a word behind it, if the mark is there. -/
def optionalWord (mark : Token) : Tokens → Option Tokens
  | [] => some []
  | t :: ts => if t = mark then expectWord ts else some (t :: ts)

/-- The rest of a time of day behind its first colon: minutes, seconds, a
fraction and an offset. -/
def readClock (ts : Tokens) : Option Tokens := do
  let ts ← expectWord ts
  match ts with
  | .colon :: ts =>
    let ts ← expectWord ts
    let ts ← optionalWord .dot ts
    let ts ← optionalWord .plus ts
    optionalWord .colon ts
  | _ => none

/-- A time of day may stand one blank behind its date. -/
def skipHour : Tokens → Tokens
  | .blank true :: .word _ :: ts => ts
  | ts => ts

def readMoment (colonSeen : Bool) (ts : Tokens) : Option (Toml × Tokens) :=
  let ts := skipHour ts
  if colonSeen then (readClock ts).map (.moment, ·)
  else
    match ts with
    | .colon :: ts => (readClock ts).map (.moment, ·)
    | ts => some (.moment, ts)

/-- Whether one of two characters stands right behind the other somewhere. -/
def containsPair (a b : Char) : List Char → Bool
  | x :: y :: rest => (x = a && y = b) || containsPair a b (y :: rest)
  | _ => false

/-- Dates are told by a `T` or by a hyphen that is no sign. -/
def looksLikeDate (s : List Char) : Bool :=
  s.contains 'T' || s.contains 't'
    || ((s.drop 1).contains '-' && !containsPair 'e' '-' s && !containsPair 'E' '-' s)

def readNumberOrMoment (s : List Char) (ts : Tokens) : Option (Toml × Tokens) :=
  if looksLikeDate s then readMoment false ts
  else
    match ts with
    | .colon :: ts => readMoment true ts
    | ts => readNumber s ts

def readWord (s : List Char) (ts : Tokens) : Option (Toml × Tokens) :=
  if s = "true".toList then some (.boolean true, ts)
  else if s = "false".toList then some (.boolean false, ts)
  else
    match s with
    | c :: _ =>
      if c = '-' || ('0' ≤ c && c ≤ '9') || s = ['i', 'n', 'f'] || s = ['n', 'a', 'n'] then
        readNumberOrMoment s ts
      else none
    | [] => none

/-! ## Keys -/

/-- A bare or quoted key on one line. -/
def readKey : Tokens → Option (String × Tokens)
  | .word s :: ts => some (String.ofList s, ts)
  | .text s false :: ts => some (String.ofList s, ts)
  | _ => none

/-- The parts of a dotted key behind its first one. -/
def readPath : (fuel : Nat) → Tokens → Option (List String × Tokens)
  | 0, _ => none
  | fuel + 1, ts => do
    let (key, ts) ← readKey (skipBlank ts)
    match skipBlank ts with
    | .dot :: ts =>
      let (path, ts) ← readPath fuel ts
      some (key :: path, ts)
    | ts => some ([key], ts)

def expectEquals : Tokens → Option Tokens
  | .equals :: ts => some (skipBlank ts)
  | _ => none

/-! ## Values -/

mutual

def readValue : (fuel : Nat) → Tokens → Option (Toml × Tokens)
  | 0, _ => none
  | fuel + 1, ts =>
    match ts with
    | .text s _ :: ts => some (.text (String.ofList s), ts)
    | .word s :: ts => readWord s ts
    | .plus :: .word s :: ts => readNumber s ts
    | .openBracket :: ts => (readItems fuel ts).map fun (items, ts) => (.array items, ts)
    | .openBrace :: ts =>
      match skipBlank ts with
      | .closeBrace :: ts => some (.table false [], ts)
      | ts => (readEntries fuel [] ts).map fun (entries, ts) => (.table false entries, ts)
    | _ => none

/-- Items up to the closing bracket, which a comma may precede. -/
def readItems : (fuel : Nat) → Tokens → Option (List Toml × Tokens)
  | 0, _ => none
  | fuel + 1, ts =>
    match skipLines ts with
    | .closeBracket :: ts => some ([], ts)
    | ts => do
      let (v, ts) ← readValue fuel ts
      match skipLines ts with
      | .comma :: ts =>
        let (items, ts) ← readItems fuel ts
        some (v :: items, ts)
      | .closeBracket :: ts => some ([v], ts)
      | _ => none

/-- Entries up to the closing brace, added to those before. -/
def readEntries : (fuel : Nat) → List (String × Toml) → Tokens →
    Option (List (String × Toml) × Tokens)
  | 0, _, _ => none
  | fuel + 1, entries, ts => do
    let (path, ts) ← readPath (fuel + 1) ts
    let (v, ts) ← readValue fuel (← expectEquals (skipBlank ts))
    let entries ← insert? v path entries
    match skipBlank ts with
    | .closeBrace :: ts => some (entries, ts)
    | .comma :: ts => readEntries fuel entries ts
    | _ => none

end

/-! ## Lines -/

/-- A line either opens a section or adds an entry to the current one. -/
inductive Line where
  | header (path : List String) (repeated : Bool)
  | entry (path : List String) (v : Toml)

/-- The end of a line or of the document. -/
def expectLineEnd (ts : Tokens) : Option Tokens :=
  match skipBlank ts with
  | [] => some []
  | .newline :: ts => some ts
  | _ => none

def expectBracket : Tokens → Option Tokens
  | .closeBracket :: ts => some ts
  | _ => none

def readLine (ts : Tokens) : Option (Line × Tokens) :=
  match ts with
  | .openBracket :: .openBracket :: ts => do
    let (path, ts) ← readPath (ts.length + 1) ts
    let ts ← expectLineEnd (← expectBracket (← expectBracket ts))
    some (.header path true, ts)
  | .openBracket :: ts => do
    let (path, ts) ← readPath (ts.length + 1) ts
    let ts ← expectLineEnd (← expectBracket ts)
    some (.header path false, ts)
  | ts => do
    let (path, ts) ← readPath (ts.length + 1) ts
    let ts ← expectEquals (skipBlank ts)
    let (v, ts) ← readValue (ts.length + 1) ts
    some (.entry path v, ← expectLineEnd ts)

/-- The lines that say something; every line takes at least one token. -/
def readLines : (fuel : Nat) → Tokens → Option (List Line)
  | 0, _ => none
  | fuel + 1, ts =>
    match skipLines ts with
    | [] => some []
    | ts => do
      let (line, ts) ← readLine ts
      (readLines fuel ts).map (line :: ·)

end UsageWatch.Toml
