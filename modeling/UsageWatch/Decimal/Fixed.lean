import UsageWatch.Decimal.Binary
/-!
# Fixed decimal places

The text of a float with a given number of places. The exact value is rounded
to the nearest such decimal, a half to the even neighbour; a minus sign is kept
even where every digit is zero.
-/

namespace UsageWatch.Decimal

/-- The magnitude in units of `10 ^ -places`, rounded. -/
def scaled (places significand : Nat) (exponent : Int) : Nat :=
  let num := significand * Nat.pow 10 places
  if 0 ≤ exponent then num * Nat.pow 2 exponent.toNat
  else roundDiv num (Nat.pow 2 (-exponent).toNat)

/-- `n` units of `10 ^ -places`. -/
def placesText (places n : Nat) : String :=
  let whole := toString (n / Nat.pow 10 places)
  let rest := toString (n % Nat.pow 10 places)
  if places = 0 then whole
  else whole ++ "." ++ "".pushn '0' (places - rest.length) ++ rest

def fixed (places : Nat) (x : Float) : String :=
  match Parts.ofFloat x with
  | .nan => "NaN"
  | .infinite negative => if negative then "-inf" else "inf"
  | .finite negative significand exponent =>
    (if negative then "-" else "") ++ placesText places (scaled places significand exponent)

end UsageWatch.Decimal
