import UsageWatch.Proofs.Projection
import UsageWatch.Usage
/-!
# The usage of a computed record

Storage traffic is clamped for each state of the packages and then once more
over both states, and time without work is taken from a total that was clamped
with it. Both are exact for a computed record: the traffic is the exact sum or
the largest word, and the two parts of the time add up to the total even where
that stopped at the largest word (`usage_exact`).
-/

namespace UsageWatch

/-! ## Clamped words -/

namespace Counter

theorem toNat_le_limit (a : Counter) : a.toNat ≤ limit := Nat.le_of_lt_succ a.toNat_lt

theorem le_sum_of_mem {a : Counter} {xs : List Counter} (h : a ∈ xs) : a ≤ sum xs := by
  have hpart : a.toNat ≤ (xs.map UInt64.toNat).sum :=
    List.le_sum_of_mem (List.mem_map_of_mem h)
  rw [UInt64.le_iff_toNat_le, toNat_sum]
  exact Nat.le_min.mpr ⟨hpart, a.toNat_le_limit⟩

theorem toNat_minus_add {part whole : Counter} (h : part ≤ whole) :
    (whole.minus part).toNat + part.toNat = whole.toNat := by
  rw [toNat_minus, Nat.sub_add_cancel (UInt64.le_iff_toNat_le.mp h)]

end Counter

theorem CpuTimes.idle_le_total (t : CpuTimes) : t.idle ≤ t.total :=
  Counter.le_sum_of_mem (by simp [parts])

/-! ## Computed records -/

section
variable (time : Timestamp) (sample : Sample) (bounds : Bounds) (filter : PackageFilter)
  (previous : Option Record)

/-- Clamping the sum of each state before adding them loses nothing that one clamp would keep. -/
theorem Record.toNat_total_storage (metric : StorageMetric) :
    (metric.of (Record.compute time sample bounds filter previous).packages.storage).total.toNat =
      min (sample.packages.map fun p => (metric.of p.storage).foreground.toNat +
        (metric.of p.storage).background.toNat).sum Counter.limit := by
  have hstate (state : PackageState) :=
    (Total.storage metric state).toNat_ofSummary_compute time sample bounds filter previous
  have hforeground := hstate .foreground
  have hbackground := hstate .background
  simp only [Total.ofSummary, Total.ofPackage, PackageState.of] at hforeground hbackground
  rw [Split.total, Counter.toNat_plus, hforeground, hbackground, List.sum_map_add]
  omega

structure PackageUsage.Of (u : PackageUsage) (e : RankedEntry) : Prop where
  uid : u.uid = e.uid
  user : u.user.toNat = e.uid.toNat / 100000
  package : u.package = e.package
  view : ∃ processes, e.view = .cpu u.cpuTime u.cpuCycles processes

theorem RankedEntry.exists_packageUsage {e : RankedEntry} {cpuTime cpuCycles : Counter}
    {processes : List ProcessCpu} (h : e.view = .cpu cpuTime cpuCycles processes) :
    ∃ u, e.packageUsage? = some u ∧ u.Of e := by
  unfold packageUsage?
  rw [h]
  exact ⟨_, rfl, rfl, UInt32.toNat_div _ _, rfl, processes, h⟩

theorem Record.usage_packages (durationMillis : Counter) :
    let r := Record.compute time sample bounds filter previous
    List.Forall₂ (fun e u => PackageUsage.Of u e) r.packages.cpuTimes
      (r.usage durationMillis).packages := by
  refine forall₂_filterMap fun e he => ?_
  obtain ⟨p, -, hshows⟩ := Category.cpuTime.exists_package time sample bounds filter previous he
  obtain ⟨processes, hview⟩ := hshows.counters
  exact RankedEntry.exists_packageUsage hview

end

/-- **Usage of a record.** The time without work is that of the sample and no
more than the processor time of the record, and the time at work makes up the
rest of it. The bytes read and written are the exact sums over all packages and
both states, or the largest word, and so are the major faults. There is one item
for each entry of the list by processor time, in the same order. -/
theorem usage_exact (time : Timestamp) (sample : Sample) (bounds : Bounds) (filter : PackageFilter)
    (previous : Option Record) (durationMillis : Counter) :
    let r := Record.compute time sample bounds filter previous
    let usage := r.usage durationMillis
    let overAll (amount : PackageUse → Nat) : Nat := (sample.packages.map amount).sum
    let bytes (s : Split) : Nat := s.foreground.toNat + s.background.toNat
    r.system.idleTime ≤ r.system.cpuTime ∧ usage.system.cpuIdleTime = sample.system.cpu.idle ∧
      usage.system.cpuNonIdleTime.toNat + usage.system.cpuIdleTime.toNat = r.system.cpuTime.toNat ∧
      usage.system.bytesRead.toNat = min (overAll fun p => bytes p.storage.read) Counter.limit ∧
      usage.system.bytesWritten.toNat = min (overAll fun p => bytes p.storage.write) Counter.limit ∧
      usage.system.majorFaults.toNat = min (overAll fun p => p.group.majorFaults.toNat)
        Counter.limit ∧
      List.Forall₂ (fun e u => PackageUsage.Of u e) r.packages.cpuTimes usage.packages := by
  intro r usage overAll bytes
  have hidle : r.system.idleTime ≤ r.system.cpuTime := sample.system.cpu.idle_le_total
  have hstorage := Record.toNat_total_storage time sample bounds filter previous
  have hfaults := Total.majorFaults.toNat_ofSummary_compute time sample bounds filter previous
  exact ⟨hidle, rfl, Counter.toNat_minus_add hidle, hstorage .read, hstorage .write, hfaults,
    Record.usage_packages time sample bounds filter previous durationMillis⟩

/-- All the time is idle and the total has stopped at the largest word; of the
bytes of two packages each state fits and their sum does not. -/
example :
    let package (split : Split) : PackageUse := { uid := 7, cpuTime := 0, storage := { read := split } }
    let sample : Sample :=
      { packages := [package ⟨0x8000000000000000, 0⟩, package ⟨0, 0x8000000000000000⟩]
        system := { cpu := { user := 5, idle := 0xffffffffffffffff } } }
    let usage := (Record.compute .epoch sample ⟨1, 1⟩ {} none).usage 1000
    usage.system.cpuNonIdleTime = 0 ∧ usage.system.cpuIdleTime = 0xffffffffffffffff ∧
      usage.system.bytesRead = 0xffffffffffffffff := by decide

end UsageWatch
