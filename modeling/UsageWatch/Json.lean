/-!
# JSON values

A value as it is written: object members keep their order and repetitions, and
whole numbers are told apart from numbers with a fraction or an exponent.
-/

namespace UsageWatch

inductive Json where
  | null
  | bool (b : Bool)
  /-- A number without fraction and exponent. -/
  | integer (negative : Bool) (magnitude : Nat)
  /-- A number with a fraction or an exponent: `mantissa * 10 ^ exponent`. -/
  | decimal (mantissa : Int) (exponent : Int)
  /-- A string literal; it has no text if an escape in it names one half of a
  surrogate pair alone. -/
  | string (text : Option String)
  | array (items : List Json)
  | object (members : List (Option String × Json))
deriving Inhabited

namespace Json

def ofNat (n : Nat) : Json := .integer false n

def ofInt (n : Int) : Json := .integer (decide (n < 0)) n.natAbs

def ofString (s : String) : Json := .string (some s)

def ofMembers (members : List (String × Json)) : Json :=
  .object (members.map fun (k, v) => (some k, v))

/-- A whole number; `-0` is none. -/
def int? : Json → Option Int
  | .integer false n => some n
  | .integer true (n + 1) => some (-((n : Int) + 1))
  | _ => none

def nat? (j : Json) : Option Nat := j.int?.bind Int.toNat?

@[simp] theorem nat?_ofNat (n : Nat) : (ofNat n).nat? = some n := rfl

def word? (bits : Nat) (j : Json) : Option Nat :=
  j.nat?.filter fun n => decide (n < Nat.pow 2 bits)

def counter? (j : Json) : Option UInt64 := (j.word? 64).map UInt64.ofNat

def count? (j : Json) : Option UInt32 := (j.word? 32).map UInt32.ofNat

def bool? : Json → Option Bool
  | .bool b => some b
  | _ => none

def text? : Json → Option String
  | .string s => s
  | _ => none

def items? : Json → Option (List Json)
  | .array items => some items
  | _ => none

/-- The value of a member; of several with one name the last. -/
def get? (name : String) : Json → Option Json
  | .object members => (members.reverse.find? (·.1 = some name)).map (·.2)
  | _ => none

end Json

end UsageWatch
