/-!
# Counters

Measurements are unsigned words. Sums stop at the largest word instead of
wrapping, and a word shown in a signed field stops at the largest signed value.
-/

namespace UsageWatch

/-- A 64-bit measurement: milliseconds, cycles, bytes, faults. -/
abbrev Counter := UInt64

/-- A 32-bit number of tasks or processes, or an identifier. -/
abbrev Count := UInt32

namespace Counter

def limit : Nat := 0xffffffffffffffff

def limit32 : Nat := 0xffffffff

def signedLimit : Nat := 0x7fffffffffffffff

def signedLimit32 : Nat := 0x7fffffff

/-- The sum, or the largest word if the sum does not fit. -/
def plus (a b : Counter) : Counter :=
  UInt64.ofNat (min (a.toNat + b.toNat) limit)

def minus (a b : Counter) : Counter :=
  UInt64.ofNat (a.toNat - b.toNat)

def sum (xs : List Counter) : Counter := xs.foldl plus 0

def toSigned (a : Counter) : Int64 := Int64.ofNat (min a.toNat signedLimit)

def toSigned32 (a : Counter) : Int32 := Int32.ofNat (min a.toNat signedLimit32)

theorem toNat_plus (a b : Counter) : (plus a b).toNat = min (a.toNat + b.toNat) limit := by
  unfold plus
  rw [UInt64.toNat_ofNat_of_lt']
  exact Nat.lt_of_le_of_lt (Nat.min_le_right _ _) (by decide)

theorem toNat_minus (a b : Counter) : (minus a b).toNat = a.toNat - b.toNat := by
  unfold minus
  rw [UInt64.toNat_ofNat_of_lt']
  exact Nat.lt_of_le_of_lt (Nat.sub_le _ _) a.toNat_lt

end Counter

namespace Count

def plus (a b : Count) : Count :=
  UInt32.ofNat (min (a.toNat + b.toNat) Counter.limit32)

def toCounter (a : Count) : Counter := a.toUInt64

def toSigned (a : Count) : Int32 := Int32.ofNat (min a.toNat Counter.signedLimit32)

end Count

end UsageWatch
