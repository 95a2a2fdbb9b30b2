import Mathlib.Algebra.Order.BigOperators.Group.List
import Mathlib.Algebra.Order.Ring.Nat
import UsageWatch.Proofs.Filtering
/-!
# Totals

Clamping a sum at every step and clamping the exact sum once come to the same.
So a total is exact up to the largest word, whatever the filter, the bounds and
the order of the packages, and the entries of a list never show more of it than
there is (`totals_cover`).
-/

namespace UsageWatch

/-! ## Clamped sums -/

/-- Items at positions of their own add up to no more than all of them. -/
theorem sum_map_fst_le {α : Type} (f : α → Nat) {xs : List α} {top : List (α × Nat)}
    (h : top.Subperm xs.zipIdx) : (top.map fun a => f a.1).sum ≤ (xs.map f).sum := by
  obtain ⟨items, hperm, hsublist⟩ := h
  have hall : xs.zipIdx.map (fun a => f a.1) = xs.map f := by
    conv_rhs => rw [← List.zipIdx_map_fst 0 xs, List.map_map]
    rfl
  rw [← (hperm.map _).sum_nat, ← hall]
  exact (hsublist.map _).sum_le_sum fun _ _ => Nat.zero_le _

namespace Counter

theorem toNat_foldl_plus (xs : List Counter) : ∀ a : Counter,
    (xs.foldl plus a).toNat = min (a.toNat + (xs.map UInt64.toNat).sum) limit := by
  induction xs with
  | nil =>
    intro a
    have hle : a.toNat ≤ limit := Nat.le_of_lt_succ a.toNat_lt
    simp [hle]
  | cons x xs ih =>
    intro a
    rw [List.foldl_cons, ih, toNat_plus, List.map_cons, List.sum_cons]
    omega

theorem toNat_sum (xs : List Counter) : (sum xs).toNat = min (xs.map UInt64.toNat).sum limit := by
  rw [sum, toNat_foldl_plus, UInt64.toNat_zero, Nat.zero_add]

theorem toNat_sum_map {α : Type} (f : α → Counter) (xs : List α) :
    (sum (xs.map f)).toNat = min (xs.map fun a => (f a).toNat).sum limit := by
  rw [toNat_sum, List.map_map]
  rfl

end Counter

/-! ## What is added up -/

inductive StorageMetric where
  | read
  | write
  | fsync
deriving DecidableEq, Repr

def StorageMetric.of : StorageMetric → StorageUse → Split
  | .read, s => s.read
  | .write, s => s.write
  | .fsync, s => s.fsync

inductive PackageState where
  | foreground
  | background
deriving DecidableEq, Repr

def PackageState.of : PackageState → Split → Counter
  | .foreground, s => s.foreground
  | .background, s => s.background

inductive Total where
  | cpuTime
  | cpuCycles
  | majorFaults
  | storage (metric : StorageMetric) (state : PackageState)
deriving DecidableEq, Repr

namespace Total

def ofPackage : Total → PackageUse → Counter
  | .cpuTime, p => p.cpuTime
  | .cpuCycles, p => p.group.cpuCycles
  | .majorFaults, p => p.group.majorFaults
  | .storage metric state, p => state.of (metric.of p.storage)

def ofSummary : Total → PackageSummary → Counter
  | .cpuTime, s => s.totalCpuTime
  | .cpuCycles, s => s.totalCpuCycles
  | .majorFaults, s => s.totalMajorFaults
  | .storage metric state, s => state.of (metric.of s.storage)

def part? : Total → View → Option Counter
  | .cpuTime, .cpu time _ _ => some time
  | .majorFaults, .single value _ => some value
  | .storage .fsync state, .storage _ fsyncs => some (state.of fsyncs)
  | .storage _ state, .storage bytes _ => some (state.of bytes)
  | _, _ => none

/-- A part of the storage use that adds up by itself. -/
theorem foldl_storage (part : StorageUse → Counter) (hzero : part {} = 0)
    (hplus : ∀ a b, part (a.plus b) = (part a).plus (part b)) (packages : List PackageUse) :
    part (packages.foldl (fun total p => total.plus p.storage) {}) =
      Counter.sum (packages.map fun p => part p.storage) := by
  have hfold : packages.foldl (fun total p => total.plus (part p.storage)) (part {}) =
      part (packages.foldl (fun total p => total.plus p.storage) {}) :=
    List.foldl_hom part fun total p => (hplus total p.storage).symm
  rw [← hfold, hzero, Counter.sum, List.foldl_map]

theorem ofSummary_compute (total : Total) (time : Timestamp) (sample : Sample) (bounds : Bounds)
    (filter : PackageFilter) (previous : Option Record) :
    total.ofSummary (Record.compute time sample bounds filter previous).packages =
      Counter.sum (sample.packages.map total.ofPackage) := by
  cases total with
  | cpuTime | cpuCycles | majorFaults => rfl
  | storage metric state =>
    refine foldl_storage (fun s => state.of (metric.of s)) ?_ (fun a b => ?_) sample.packages
    · cases metric <;> cases state <;> rfl
    · cases metric <;> cases state <;> rfl

theorem toNat_ofSummary_compute (total : Total) (time : Timestamp) (sample : Sample)
    (bounds : Bounds) (filter : PackageFilter) (previous : Option Record) :
    (total.ofSummary (Record.compute time sample bounds filter previous).packages).toNat =
      min (sample.packages.map fun p => (total.ofPackage p).toNat).sum Counter.limit := by
  rw [ofSummary_compute, Counter.toNat_sum_map]

end Total

/-! ## Shares -/

namespace Category

/-- The totals that a report shows the entries of the list as shares of. Blocked
tasks are a share of the tasks of their own identifier. -/
def totals : Category → List Total
  | .cpuTime => [.cpuTime]
  | .storageRead => [.storage .read .foreground, .storage .read .background,
      .storage .fsync .foreground, .storage .fsync .background]
  | .storageWrite => [.storage .write .foreground, .storage .write .background,
      .storage .fsync .foreground, .storage .fsync .background]
  | .blockedTasks => []
  | .majorFaults => [.majorFaults]

theorem part?_entry {category : Category} {total : Total} (h : total ∈ category.totals)
    (bounds : Bounds) (p : PackageUse) :
    total.part? (category.entry bounds p).view = some (total.ofPackage p) := by
  cases category <;> simp only [totals, List.mem_cons, List.not_mem_nil, or_false] at h
  case cpuTime | majorFaults => cases h; rfl
  case storageRead | storageWrite => rcases h with rfl | rfl | rfl | rfl <;> rfl

theorem exists_parts {category : Category} {total : Total} (h : total ∈ category.totals)
    (time : Timestamp) (sample : Sample) (bounds : Bounds) (filter : PackageFilter)
    (previous : Option Record) :
    let summary := (Record.compute time sample bounds filter previous).packages
    ∃ parts : List Counter, (category.list summary).map (total.part? ·.view) = parts.map some ∧
      Counter.sum parts ≤ total.ofSummary summary := by
  intro summary
  obtain ⟨listed, hlisting, hentries⟩ := category.exists_listing time sample bounds filter previous
  refine ⟨listed.map fun q => total.ofPackage q.1, ?_, ?_⟩
  · rw [hentries, List.map_map, List.map_map]
    exact List.map_congr_left fun q _ => part?_entry h bounds q.1
  · -- each entry stands for a package of its own, so the listed ones are part of the exact sum
    have hle := sum_map_fst_le (fun p => (total.ofPackage p).toNat) hlisting.subperm
    rw [UInt64.le_iff_toNat_le, Counter.toNat_sum_map, total.toNat_ofSummary_compute]
    omega

end Category

/-! ## Task counts -/

namespace TaskCounts

def keys (m : TaskCounts) : List Count := m.toList.map (·.1)

theorem keys_put (m : TaskCounts) (uid tasks : Count) :
    (m.put uid tasks).keys = uid :: m.keys.filter (· ≠ uid) := by
  simp [keys, put, List.filter_map, Function.comp_def]

theorem isSome_get?_iff (m : TaskCounts) (uid : Count) :
    (m.get? uid).isSome = true ↔ uid ∈ m.keys := by
  simp [get?, keys, List.lookup_isSome_iff]

theorem nodup_keys_put {m : TaskCounts} (h : m.keys.Nodup) (uid tasks : Count) :
    (m.put uid tasks).keys.Nodup := by
  rw [keys_put, List.nodup_cons]
  exact ⟨by simp, h.filter _⟩

theorem mem_keys_foldl_put (packages : List PackageUse) (uid : Count) : ∀ m : TaskCounts,
    uid ∈ (packages.foldl (fun m p => m.put p.uid p.group.tasks) m).keys ↔
      uid ∈ m.keys ∨ uid ∈ packages.map (·.uid) := by
  induction packages with
  | nil => simp
  | cons p packages ih =>
    intro m
    rw [List.foldl_cons, ih, keys_put, List.map_cons, List.mem_cons, List.mem_cons]
    by_cases h : uid = p.uid <;> simp [h]

end TaskCounts

/-- **Totals.** In whatever order the packages of the sample are added, each
total of a record is their exact sum or else the largest word, and so is the
processor time of the system. There is a task count for each identifier of the
sample, and for no other. What the entries of a list show of a total adds up to
no more than the total. -/
theorem totals_cover (time : Timestamp) (sample : Sample) (bounds : Bounds) (filter : PackageFilter)
    (previous : Option Record) (packages : List PackageUse)
    (horder : packages.Perm sample.packages) :
    let r := Record.compute time sample bounds filter previous
    let t := sample.system.cpu
    (∀ total : Total, (total.ofSummary r.packages).toNat =
        min (packages.map fun p => (total.ofPackage p).toNat).sum Counter.limit) ∧
      r.system.cpuCycles = r.packages.totalCpuCycles ∧
      r.system.cpuTime.toNat = min (t.user.toNat + t.nice.toNat + t.system.toNat + t.idle.toNat +
        t.ioWait.toNat + t.irq.toNat + t.softIrq.toNat + t.steal.toNat + t.guest.toNat +
        t.guestNice.toNat) Counter.limit ∧
      r.packages.taskCounts.keys.Nodup ∧
      (∀ uid, (r.packages.taskCounts.get? uid).isSome = true ↔ uid ∈ packages.map (·.uid)) ∧
      ∀ category : Category, ∀ total ∈ category.totals, ∃ parts : List Counter,
        (category.list r.packages).map (total.part? ·.view) = parts.map some ∧
          Counter.sum parts ≤ total.ofSummary r.packages := by
  intro r t
  refine ⟨fun total => ?_, rfl, ?_, ?_, fun uid => ?_, fun category total htotal => ?_⟩
  · rw [total.toNat_ofSummary_compute, (horder.map _).sum_nat]
  · refine (Counter.toNat_sum t.parts).trans (congrArg (min · Counter.limit) ?_)
    simp only [CpuTimes.parts, List.map_cons, List.map_nil, List.sum_cons, List.sum_nil]
    omega
  · exact List.foldlRecOn (motive := fun m : TaskCounts => m.keys.Nodup) sample.packages _ .nil
      fun m hm p _ => TaskCounts.nodup_keys_put hm p.uid p.group.tasks
  · have hkeys := TaskCounts.mem_keys_foldl_put sample.packages uid {}
    rw [TaskCounts.isSome_get?_iff, (horder.map _).mem_iff]
    exact hkeys.trans (by simp [TaskCounts.keys])
  · exact Category.exists_parts htotal time sample bounds filter previous

/-- Two packages of one identifier together pass the largest word, and the one
that is listed shows all of it. -/
theorem totals_cover_clamped :
    let full : PackageUse := { uid := 7, cpuTime := 0xffffffffffffffff }
    let slight : PackageUse := { uid := 7, name := "a", cpuTime := 1 }
    let sample : Sample := { packages := [slight, full] }
    let r := Record.compute .epoch sample ⟨1, 1⟩ {} none
    [full, slight].Perm sample.packages ∧ Total.cpuTime ∈ Category.cpuTime.totals ∧
      (Total.cpuTime.ofSummary r.packages).toNat = min (0xffffffffffffffff + (1 + 0)) Counter.limit ∧
      ∃ parts : List Counter,
        r.packages.cpuTimes.map (Total.cpuTime.part? ·.view) = parts.map some ∧
          Counter.sum parts ≤ r.packages.totalCpuTime := by
  intro full slight sample r
  have horder : [full, slight].Perm sample.packages := .swap ..
  have hlisted : Total.cpuTime ∈ Category.cpuTime.totals := List.mem_singleton_self _
  obtain ⟨htotals, -, -, -, -, hparts⟩ :=
    totals_cover .epoch sample ⟨1, 1⟩ {} none [full, slight] horder
  exact ⟨horder, hlisted, htotals .cpuTime, hparts .cpuTime .cpuTime hlisted⟩

end UsageWatch
