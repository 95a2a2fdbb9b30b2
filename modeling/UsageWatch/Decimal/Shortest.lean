import UsageWatch.Decimal.Binary
/-!
# Shortest decimals

The decimal of fewest digits that reads back as a given float, and of those the
nearest one. It is found on the grids of 1, 2, … 17 digits: a grid point that
reads back exists exactly when one of the two neighbours of the value does.
-/

namespace UsageWatch.Decimal

/-- A power with a signed exponent, as numerator and denominator. -/
def powFraction (base : Nat) (e : Int) : Nat × Nat :=
  if 0 ≤ e then (Nat.pow base e.toNat, 1) else (1, Nat.pow base (-e).toNat)

/-- Whether `digits * 10 ^ ten` reads back as `significand * 2 ^ two`: it lies
in the interval of reals nearer to that float than to its neighbours. The ends
belong to the interval when the significand is even. -/
def readsBack (significand : Nat) (two : Int) (digits : Nat) (ten : Int) : Bool :=
  let (tn, td) := powFraction 10 ten
  let (bn, bd) := powFraction 2 (two - 2)
  let value := digits * tn * bd
  let high := (4 * significand + 2) * bn * td
  -- Below a power of two the next float is only half as far.
  let step := if significand = leadingBit ∧ -1074 < two then 1 else 2
  let low := (4 * significand - step) * bn * td
  if significand % 2 = 0 then low ≤ value && value ≤ high else low < value && value < high

/-- Digits and power of ten of the candidate with exponent `ten`, if one reads back. -/
def onGrid? (significand : Nat) (two ten : Int) : Option (Nat × Int) :=
  let (bn, bd) := powFraction 2 two
  let (tn, td) := powFraction 10 ten
  let num := significand * bn * td
  let den := bd * tn
  let below := num / den
  let lowFits := 0 < below && readsBack significand two below ten
  let highFits := readsBack significand two (below + 1) ten
  if lowFits && highFits then
    some (roundDiv num den, ten)
  else if lowFits then some (below, ten)
  else if highFits then some (below + 1, ten)
  else none

/-- Number of decimal digits before the point of `significand * 2 ^ two`. -/
def magnitude (significand : Nat) (two : Int) : Int :=
  let (bn, bd) := powFraction 2 two
  let num := significand * bn
  if bd ≤ num then ((toString (num / bd)).length : Int)
  else 1 - ((toString ((bd + num - 1) / num - 1)).length : Int)

def shortestFrom (significand : Nat) (two top : Int) : Nat → Nat × Int
  | 0 => (significand, 0)
  | left + 1 =>
    let digits := 18 - (left + 1)
    match onGrid? significand two (top - digits) with
    | some r => r
    | none => shortestFrom significand two top left

/-- Digits and power of ten of the shortest decimal of a non-zero magnitude. -/
def shortest (significand : Nat) (two : Int) : Nat × Int :=
  shortestFrom significand two (magnitude significand two) 17

/-- All digits written out, without an exponent. -/
def positional (digits : Nat) (ten : Int) : String :=
  let text := toString digits
  if 0 ≤ ten then
    text.pushn '0' ten.toNat
  else
    let places := (-ten).toNat
    let full := "".pushn '0' (places + 1 - text.length) ++ text
    let whole := String.ofList (full.toList.take (full.length - places))
    let rest := full.toList.drop (full.length - places)
    let rest := (rest.reverse.dropWhile (· == '0')).reverse
    if rest.isEmpty then whole else whole ++ "." ++ String.ofList rest

/-- The text of a float: its shortest decimal, written out in full. -/
def text (x : Float) : String :=
  match Parts.ofFloat x with
  | .nan => "NaN"
  | .infinite negative => if negative then "-inf" else "inf"
  | .finite negative significand two =>
    let sign := if negative then "-" else ""
    if significand = 0 then sign ++ "0"
    else
      let (digits, ten) := shortest significand two
      sign ++ positional digits ten

end UsageWatch.Decimal
