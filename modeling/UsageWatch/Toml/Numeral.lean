import UsageWatch.Decimal.Range
import UsageWatch.Toml
import UsageWatch.Toml.Token
/-!
# TOML numerals

Whole numbers in four bases, with underscores between digits, and the texts of
numbers with a fraction or an exponent. Only whether such a number is finite
matters here.
-/

namespace UsageWatch.Toml

def digit? (base : Nat) (c : Char) : Option Nat := (Text.hexDigit? c).filter (· < base)

/-- Underscores stand between digits, one at a time. -/
def wellSpaced : List Char → Bool
  | [] => false
  | '_' :: _ => false
  | [_] => true
  | _ :: '_' :: rest => wellSpaced rest
  | _ :: rest => wellSpaced rest

/-- The digits at the beginning of a text, without underscores, and what follows. -/
def readDigits (base : Nat) (zerosAllowed : Bool) (s : List Char) :
    Option (List Nat × List Char) :=
  let isPart (c : Char) : Bool := c = '_' || (digit? base c).isSome
  let run := s.takeWhile isPart
  if !wellSpaced run || (!zerosAllowed && run.head? = some '0' && 1 < run.length) then none
  else some (run.filterMap (digit? base), s.dropWhile isPart)

def digitsValue (base : Nat) (ds : List Nat) : Nat := ds.foldl (fun n d => n * base + d) 0

def readMinus : List Char → Bool × List Char
  | '-' :: rest => (true, rest)
  | s => (false, s)

def signed (negative : Bool) (n : Nat) : Int := if negative then -(n : Int) else n

def inRange (n : Int) : Bool := -0x8000000000000000 ≤ n && n < 0x8000000000000000

def basedInteger? (base : Nat) (s : List Char) : Option Toml := do
  let (ds, rest) ← readDigits base true s
  let n := signed false (digitsValue base ds)
  if rest.isEmpty && inRange n then some (.integer n) else none

/-- A decimal whole number; no zeros may stand in front. -/
def decimalInteger? (s : List Char) : Option Toml := do
  let (negative, s) := readMinus s
  let (ds, rest) ← readDigits 10 false s
  let n := signed negative (digitsValue 10 ds)
  if rest.isEmpty && inRange n then some (.integer n) else none

def exponentOf (negative : Bool) (ds : List Nat) : Int := signed negative (digitsValue 10 ds)

def real? (whole fraction : List Nat) (exponent : Int) : Option Toml :=
  let mantissa := digitsValue 10 (whole ++ fraction)
  if Decimal.isFinite mantissa (exponent - fraction.length) then some .real else none

end UsageWatch.Toml
