import Mathlib.Data.UInt
import UsageWatch.Usage
/-!
# Start times of usages

The start time of a usage counts milliseconds in a 64-bit word. Points in time reach further
than such a word, and the count is not clamped at its end as the counters of a record are, but
starts again at zero. Up to a point in time the start times are in the order of the records if
and only if that point lies before the end of the word (`start_times_ordered_iff`).
-/

namespace UsageWatch

namespace Timestamp

def wholeMillis (t : Timestamp) : Nat := (t.nanos / 1000000).toNat

/-- The first point in time whose milliseconds do not fit a 64-bit word. -/
def millisEnd : Timestamp := ⟨0x10000000000000000 * 1000000, by decide, by decide⟩

def lastMillis : Timestamp := ⟨0xffffffffffffffff * 1000000, by decide, by decide⟩

theorem wholeMillis_mono {a b : Timestamp} (h : a ≤ b) : a.wholeMillis ≤ b.wholeMillis :=
  Int.toNat_le_toNat (Int.ediv_le_ediv (by decide) h)

theorem wholeMillis_lt_iff {t : Timestamp} : t.wholeMillis < 0x10000000000000000 ↔ t < millisEnd := by
  have hend : millisEnd.nanos = 0x10000000000000000 * 1000000 := rfl
  rw [lt_iff, wholeMillis, hend]
  omega

theorem toNat_millisSince_epoch (t : Timestamp) :
    (t.millisSince .epoch).toNat = t.wholeMillis % 0x10000000000000000 := by
  have hsince : t.since .epoch / 1000000 = t.wholeMillis := by
    show (t.nanos - 0).toNat / 1000000 = (t.nanos / 1000000).toNat
    omega
  rw [millisSince, hsince]
  exact UInt64.toNat_ofNat

theorem toNat_millisSince_epoch_of_lt {t : Timestamp} (h : t < millisEnd) :
    (t.millisSince .epoch).toNat = t.wholeMillis := by
  rw [toNat_millisSince_epoch, Nat.mod_eq_of_lt (wholeMillis_lt_iff.mpr h)]

theorem millisSince_epoch_mono {a b : Timestamp} (h : a ≤ b) (hb : b < millisEnd) :
    a.millisSince .epoch ≤ b.millisSince .epoch := by
  rw [UInt64.le_iff_toNat_le, toNat_millisSince_epoch_of_lt (Int.lt_of_le_of_lt h hb),
    toNat_millisSince_epoch_of_lt hb]
  exact wholeMillis_mono h

theorem millisSince_lastMillis : lastMillis.millisSince .epoch = 0xffffffffffffffff := by decide

theorem millisSince_millisEnd : millisEnd.millisSince .epoch = 0 := by decide

end Timestamp

/-- **Start times of records.** They are the whole milliseconds from the epoch, zero before it,
cut to a 64-bit word. Among the records up to a point in time no start time is behind that of
an earlier record, and each is clamped to the word, if and only if the point lies before the
first one whose milliseconds do not fit. -/
theorem start_times_ordered_iff (bound : Timestamp) (durationMillis : Counter) :
    let start (r : Record) : Counter := (r.usage durationMillis).startMillis
    (∀ r : Record, (start r).toNat = r.time.wholeMillis % 0x10000000000000000) ∧
      ((∀ r₁ r₂ : Record, r₁.time ≤ r₂.time → r₂.time ≤ bound → start r₁ ≤ start r₂) ↔
        bound < .millisEnd) ∧
      ((∀ r : Record, r.time ≤ bound → (start r).toNat = min r.time.wholeMillis Counter.limit) ↔
        bound < .millisEnd) := by
  intro start
  have hlast : start { time := .lastMillis } = 0xffffffffffffffff := Timestamp.millisSince_lastMillis
  have hnext : start { time := .millisEnd } = 0 := Timestamp.millisSince_millisEnd
  refine ⟨fun r => r.time.toNat_millisSince_epoch, ⟨fun hordered => ?_, fun hbound => ?_⟩,
    ⟨fun hclamped => ?_, fun hbound => ?_⟩⟩
  -- A bound that is not before the end of the word admits the records on both sides of it.
  · by_contra hend
    have hle : start { time := .lastMillis } ≤ start { time := .millisEnd } :=
      hordered _ _ (by decide) (Int.not_lt.mp hend)
    rw [hlast, hnext] at hle
    exact absurd hle (by decide)
  · exact fun r₁ r₂ htime hr₂ =>
      Timestamp.millisSince_epoch_mono htime (Int.lt_of_le_of_lt hr₂ hbound)
  · by_contra hend
    have hlimit : (start { time := .millisEnd }).toNat =
        min (Timestamp.wholeMillis .millisEnd) Counter.limit := hclamped _ (Int.not_lt.mp hend)
    rw [hnext] at hlimit
    exact absurd hlimit (by decide)
  · intro r hr
    have hlt : r.time < .millisEnd := Int.lt_of_le_of_lt hr hbound
    have hword : r.time.wholeMillis ≤ Counter.limit :=
      Nat.le_of_lt_succ (Timestamp.wholeMillis_lt_iff.mpr hlt)
    rw [Nat.min_eq_left hword]
    exact Timestamp.toNat_millisSince_epoch_of_lt hlt

/-- A record before the epoch and one at the last millisecond of the word. -/
theorem start_times_ordered_iff_last :
    let early : Record := { time := ⟨-1, by decide, by decide⟩ }
    let late : Record := { time := .lastMillis }
    early.time ≤ late.time ∧ late.time < .millisEnd ∧
      (early.usage 0).startMillis ≤ (late.usage 0).startMillis ∧
      (early.usage 0).startMillis = 0 ∧ (late.usage 0).startMillis = 0xffffffffffffffff := by
  intro early late
  have htime : early.time ≤ late.time := by decide
  have hend : late.time < .millisEnd := by decide
  obtain ⟨-, hordered, -⟩ := start_times_ordered_iff late.time 0
  exact ⟨htime, hend, hordered.mpr hend early late htime (Int.le_refl _), by decide, by decide⟩

/-- The start time of a record falls from the largest word to zero within a millisecond. -/
theorem start_times_reversed :
    let last : Record := { time := .lastMillis }
    let next : Record := { time := .millisEnd }
    last.time ≤ next.time ∧ ¬ (last.usage 0).startMillis ≤ (next.usage 0).startMillis := by
  decide

end UsageWatch
