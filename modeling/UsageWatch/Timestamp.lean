/-!
# Points in time

A point in time is a number of nanoseconds since 1970-01-01 UTC whose whole
seconds fit a signed 64-bit word. Shifting one is exact, and fails only when
the result leaves that range.
-/

namespace UsageWatch

/-- A length of time in nanoseconds. -/
abbrev Duration := Nat

namespace Duration

def nanosPerSecond : Nat := 1000000000

def ofSeconds (s : Nat) : Duration := s * nanosPerSecond

def seconds (d : Duration) : Nat := Nat.div d nanosPerSecond

end Duration

structure Timestamp where
  nanos : Int
  lower : -0x8000000000000000 * 1000000000 ≤ nanos
  upper : nanos < 0x8000000000000000 * 1000000000
deriving DecidableEq

namespace Timestamp

def ofNanos? (n : Int) : Option Timestamp :=
  if h : -0x8000000000000000 * 1000000000 ≤ n ∧ n < 0x8000000000000000 * 1000000000 then
    some ⟨n, h.1, h.2⟩
  else
    none

def epoch : Timestamp := ⟨0, by decide, by decide⟩

instance : Inhabited Timestamp := ⟨epoch⟩

instance : Repr Timestamp := ⟨fun t _ => repr t.nanos⟩

instance : LE Timestamp := ⟨fun a b => a.nanos ≤ b.nanos⟩
instance : LT Timestamp := ⟨fun a b => a.nanos < b.nanos⟩
instance (a b : Timestamp) : Decidable (a ≤ b) := inferInstanceAs (Decidable (a.nanos ≤ b.nanos))
instance (a b : Timestamp) : Decidable (a < b) := inferInstanceAs (Decidable (a.nanos < b.nanos))

instance : Max Timestamp := maxOfLe

theorem eq_of_nanos {a b : Timestamp} (h : a.nanos = b.nanos) : a = b := by
  cases a
  cases b
  cases h
  rfl

theorem le_iff {a b : Timestamp} : a ≤ b ↔ a.nanos ≤ b.nanos := Iff.rfl
theorem lt_iff {a b : Timestamp} : a < b ↔ a.nanos < b.nanos := Iff.rfl

def later? (t : Timestamp) (d : Duration) : Option Timestamp := ofNanos? (t.nanos + d)

def earlier? (t : Timestamp) (d : Duration) : Option Timestamp := ofNanos? (t.nanos - d)

/-- The time from `start` to `t`, zero if `t` is the earlier one. -/
def since (t start : Timestamp) : Duration := (t.nanos - start.nanos).toNat

def seconds (t : Timestamp) : Int := t.nanos / 1000000000

def subsecond (t : Timestamp) : Nat := (t.nanos % 1000000000).toNat

end Timestamp

end UsageWatch
