/-!
# Decimal numerals

Unsigned numbers as people write them: an optional plus sign and digits, read
from the left. The first digit that is no digit, or at which the value passes
the limit, decides which error is reported.
-/

namespace UsageWatch.Text

inductive NumeralError where
  | empty
  | invalidDigit
  | tooLarge
deriving DecidableEq, Repr

def NumeralError.message : NumeralError → String
  | .empty => "cannot parse integer from empty string"
  | .invalidDigit => "invalid digit found in string"
  | .tooLarge => "number too large to fit in target type"

def digit? (c : Char) : Option Nat :=
  if '0' ≤ c ∧ c ≤ '9' then some (c.toNat - '0'.toNat) else none

/-- Reads digits behind the value `acc`. -/
def readDigits (limit : Nat) (acc : Nat) : List Char → Except NumeralError Nat
  | [] => .ok acc
  | c :: rest =>
    match digit? c with
    | none => .error .invalidDigit
    | some d => if limit < acc * 10 + d then .error .tooLarge else readDigits limit (acc * 10 + d) rest

def readNumeral (limit : Nat) : List Char → Except NumeralError Nat
  | [] => .error .empty
  | ['+'] => .error .invalidDigit
  | '+' :: digits => readDigits limit 0 digits
  | digits => readDigits limit 0 digits

def readCount (s : List Char) : Except NumeralError UInt32 :=
  (readNumeral 0xffffffff s).map UInt32.ofNat

def readCounter (s : List Char) : Except NumeralError UInt64 :=
  (readNumeral 0xffffffffffffffff s).map UInt64.ofNat

end UsageWatch.Text
