/-!
# Binary floating point, taken apart

A finite 64-bit float is a sign and `significand * 2 ^ exponent`. Printing works
on these natural numbers, so that rounding is exact arithmetic.
-/

namespace UsageWatch.Decimal

inductive Parts where
  | nan
  | infinite (negative : Bool)
  | finite (negative : Bool) (significand : Nat) (exponent : Int)
deriving DecidableEq, Repr

/-- The leading bit of a significand, which the word leaves out. -/
def leadingBit : Nat := 0x10000000000000

def Parts.ofBits (bits : UInt64) : Parts :=
  let negative : Bool := bits.toNat / 0x8000000000000000 == 1
  let field : Nat := bits.toNat / leadingBit % 0x800
  let fraction : Nat := bits.toNat % leadingBit
  if field = 2047 then
    if fraction = 0 then .infinite negative else .nan
  else if field = 0 then
    .finite negative fraction (-1074)
  else
    .finite negative (fraction + leadingBit) ((field : Int) - 1075)

def Parts.ofFloat (x : Float) : Parts := .ofBits x.toBits

/-- `num / den` rounded to the nearest integer, a half to the even neighbour. -/
def roundDiv (num den : Nat) : Nat :=
  let q := num / den
  let twice := 2 * (num % den)
  if den < twice ∨ (twice = den ∧ q % 2 = 1) then q + 1 else q

end UsageWatch.Decimal
