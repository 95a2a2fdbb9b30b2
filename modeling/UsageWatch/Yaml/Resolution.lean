import UsageWatch.Decimal.Range
import UsageWatch.Text.Hex
/-!
# Meanings of plain scalars

A text without quotes may be nothing at all, a truth value or a number. Digits
behind a leading zero are no number.
-/

namespace UsageWatch.Yaml

def isNull (s : List Char) : Bool :=
  ["null", "Null", "NULL", "~"].any fun w => w.toList = s

def boolean? (s : List Char) : Option Bool :=
  if ["true", "True", "TRUE"].any fun w => w.toList = s then some true
  else if ["false", "False", "FALSE"].any fun w => w.toList = s then some false
  else none

def isSign (c : Char) : Bool := c = '+' || c = '-'

def isDigit (c : Char) : Bool := '0' ≤ c && c ≤ '9'

/-- More than one digit, the first of them zero. -/
def isPaddedNumeral (s : List Char) : Bool :=
  let s := if s.head?.any isSign then s.drop 1 else s
  1 < s.length && s.head? = some '0' && s.all isDigit

def digitsValue? (base : Nat) (s : List Char) : Option Nat :=
  if s.isEmpty then none
  else s.foldlM (fun n c => ((Text.hexDigit? c).filter (· < base)).map (n * base + ·)) 0

/-- Digits behind the mark of their base; without one they are decimal. -/
def basedValue? : List Char → Option Nat
  | '0' :: 'x' :: s => digitsValue? 16 s
  | '0' :: 'o' :: s => digitsValue? 8 s
  | '0' :: 'b' :: s => digitsValue? 2 s
  | s => digitsValue? 10 s

def dropPlus : List Char → List Char
  | '+' :: s => s
  | s => s

/-- A whole number that is not negative. -/
def natural? (s : List Char) : Option Nat :=
  if isPaddedNumeral s then none else basedValue? (dropPlus s)

/-- The magnitude of a whole number with a minus sign. -/
def negative? : List Char → Option Nat
  | '-' :: s => if isPaddedNumeral s then none else basedValue? s
  | _ => none

def isInteger (s : List Char) : Bool :=
  (natural? s).any (· < Nat.pow 2 128) || (negative? s).any (· ≤ Nat.pow 2 127)

/-- The exponent of a number, if nothing else is left of it. -/
def exponent? : List Char → Option Int
  | [] => some 0
  | e :: s =>
    if e = 'e' || e = 'E' then
      match s with
      | '-' :: ds => (digitsValue? 10 ds).map fun n => -(n : Int)
      | s => (digitsValue? 10 (dropPlus s)).map fun n => (n : Int)
    else none

/-- Digits with a point among them, or none, and an exponent; the number is finite. -/
def isFiniteReal (s : List Char) : Bool :=
  let whole := s.takeWhile isDigit
  let rest := s.dropWhile isDigit
  let fraction := if rest.head? = some '.' then (rest.drop 1).takeWhile isDigit else []
  let rest := if rest.head? = some '.' then (rest.drop 1).dropWhile isDigit else rest
  match digitsValue? 10 (whole ++ fraction), exponent? rest with
  | some m, some e => Decimal.isFinite m (e - fraction.length)
  | _, _ => false

/-- Whether the text is a number with a fraction or an exponent, infinity, or
no number. -/
def isReal (s : List Char) : Bool :=
  let unsigned := dropPlus s
  if unsigned.length < s.length && unsigned.head?.any isSign then false
  else
    [".inf", ".Inf", ".INF"].any (fun w => w.toList = unsigned)
      || ["-.inf", "-.Inf", "-.INF", ".nan", ".NaN", ".NAN"].any (fun w => w.toList = s)
      || isFiniteReal (if unsigned.head? = some '-' then unsigned.drop 1 else unsigned)

/-- Whether a plain text would not be read as a text. -/
def isAmbiguous (s : List Char) : Bool :=
  s.isEmpty || isNull s || (boolean? s).isSome || isInteger s || isPaddedNumeral s || isReal s

end UsageWatch.Yaml
