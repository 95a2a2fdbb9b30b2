/-!
# Finite decimals

Whether a decimal number is finite once it is rounded to 64 bits.
-/

namespace UsageWatch.Decimal

/-- Magnitudes from here on are infinite: halfway from the largest number to the
next power of two. -/
def infiniteFrom : Nat := Nat.pow 2 1024 - Nat.pow 2 970

/-- Whether `m * 10 ^ exponent` is finite. The number of digits decides unless
it is near the limit, so that no large power is worked out. -/
def isFinite (m : Nat) (exponent : Int) : Bool :=
  let size := (toString m).length
  if m = 0 || size + exponent < 300 then true
  else if 320 < size + exponent then false
  else if 0 ≤ exponent then m * Nat.pow 10 exponent.toNat < infiniteFrom
  else m < infiniteFrom * Nat.pow 10 (-exponent).toNat

end UsageWatch.Decimal
