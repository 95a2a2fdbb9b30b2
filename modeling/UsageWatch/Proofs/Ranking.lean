import Mathlib.Data.List.Forall2
import Mathlib.Data.List.Perm.Subperm
import UsageWatch.Ranking
/-!
# The ranked lists of a record

Without a filter, each of the five lists of a record is a stable top list: the
packages with a non-zero amount, the largest first and equal ones as they were
sampled, cut to the bound (`lists_ranked`).
-/

namespace UsageWatch

/-! ## Stable order -/

section
variable {α β : Type}

def Ahead (key : α → Nat) (a b : α × Nat) : Prop :=
  key b.1 < key a.1 ∨ key a.1 = key b.1 ∧ a.2 < b.2

/-- The order that `topBy` cuts: items with a non-zero key, each with its position. -/
def ranking (key : α → Nat) (xs : List α) : List (α × Nat) :=
  (xs.zipIdx.filter (0 < key ·.1)).mergeSort fun a b => key b.1 ≤ key a.1

theorem zipIdx_pairwise_lt : ∀ (xs : List α) (n : Nat), (xs.zipIdx n).Pairwise (·.2 < ·.2)
  | [], _ => .nil
  | x :: xs, n => by
    rw [List.zipIdx_cons, List.pairwise_cons]
    refine ⟨fun b hb => ?_, zipIdx_pairwise_lt xs (n + 1)⟩
    exact List.le_snd_of_mem_zipIdx hb

/-- Where a stable sort leaves `a` before `b`, it is ahead: ties keep the ascending positions. -/
theorem ahead_of_zipIdxLE {key : α → Nat} {l : List (α × Nat)} (hl : l.Pairwise (·.2 < ·.2))
    {a b : α × Nat} {m n : Nat} (ham : l[m]? = some a) (hbn : l[n]? = some b) (hmn : m ≠ n)
    (hle : List.zipIdxLE (fun a b => decide (key b.1 ≤ key a.1)) (a, m) (b, n) = true) :
    Ahead key a b := by
  unfold List.zipIdxLE at hle
  split at hle
  · rename_i hkey
    split at hle
    · rename_i hback
      simp only [decide_eq_true_eq] at hkey hback hle
      obtain ⟨hm, rfl⟩ := List.getElem?_eq_some_iff.mp ham
      obtain ⟨hn, rfl⟩ := List.getElem?_eq_some_iff.mp hbn
      have hlt : m < n := Nat.lt_of_le_of_ne hle hmn
      exact .inr ⟨Nat.le_antisymm hback hkey, List.pairwise_iff_getElem.mp hl m n hm hn hlt⟩
    · rename_i hback
      rw [decide_eq_true_eq] at hback
      exact .inl (Nat.lt_of_not_le hback)
  · cases hle

theorem pairwise_ahead_mergeSort (key : α → Nat) {l : List (α × Nat)}
    (hl : l.Pairwise (·.2 < ·.2)) :
    (l.mergeSort fun a b => key b.1 ≤ key a.1).Pairwise (Ahead key) := by
  let le : α × Nat → α × Nat → Bool := fun a b => key b.1 ≤ key a.1
  -- the sort breaks ties by the position in `l`, which ascends with the one in the item
  let sorted := l.zipIdx.mergeSort (List.zipIdxLE le)
  have hle : sorted.Pairwise fun a b => List.zipIdxLE le a b = true := by
    refine List.pairwise_mergeSort (List.zipIdxLE_trans fun a b c hab hbc => ?_)
      (List.zipIdxLE_total fun a b => ?_) _
    · simp only [le, decide_eq_true_eq] at hab hbc ⊢
      omega
    · simp only [le, Bool.or_eq_true, decide_eq_true_eq]
      omega
  have hperm : sorted.Perm l.zipIdx := List.mergeSort_perm _ _
  have hne : sorted.Pairwise fun a b => a.2 ≠ b.2 :=
    hperm.symm.pairwise ((zipIdx_pairwise_lt l 0).imp fun h => Nat.ne_of_lt h) fun h => h.symm
  rw [← List.mergeSort_zipIdx, List.pairwise_map]
  refine (hle.and hne).imp_of_mem fun {a b} ha hb hab => ?_
  have ham : l[a.2]? = some a.1 := List.mem_zipIdx_iff_getElem?.mp (hperm.mem_iff.mp ha)
  have hbn : l[b.2]? = some b.1 := List.mem_zipIdx_iff_getElem?.mp (hperm.mem_iff.mp hb)
  exact ahead_of_zipIdxLE hl ham hbn hab.2 hab.1

theorem ranking_perm (key : α → Nat) (xs : List α) :
    (ranking key xs).Perm (xs.zipIdx.filter (0 < key ·.1)) := List.mergeSort_perm _ _

theorem ranking_pairwise (key : α → Nat) (xs : List α) :
    (ranking key xs).Pairwise (Ahead key) :=
  pairwise_ahead_mergeSort key ((zipIdx_pairwise_lt xs 0).filter _)

theorem ranking_nodup (key : α → Nat) (xs : List α) : ((ranking key xs).map (·.2)).Nodup := by
  rw [((ranking_perm key xs).map _).nodup_iff]
  have hlt := (zipIdx_pairwise_lt xs 0).filter (fun a => decide (0 < key a.1))
  exact List.pairwise_map.mpr (hlt.imp fun h => Nat.ne_of_lt h)

theorem map_filter_zipIdx (p : α → Bool) (f : α → β) (xs : List α) :
    (xs.zipIdx.filter fun a => p a.1).map (fun a => f a.1) = (xs.filter p).map f := by
  conv_rhs => rw [← List.zipIdx_map_fst 0 xs, List.filter_map, List.map_map]
  rfl

/-- `topBy` lists what is ranked first. -/
theorem topBy_map (key : β → Counter) (limit : Nat) (f : α → β) (xs : List α) :
    topBy key limit (xs.map f) =
      ((ranking (fun a => (key (f a)).toNat) xs).take limit).map fun a => f a.1 := by
  unfold topBy ranking
  have hfilter : (xs.map f).filter (0 < key ·) =
      (xs.zipIdx.filter fun a => 0 < (key (f a.1)).toNat).map fun a => f a.1 := by
    rw [List.filter_map]
    exact (map_filter_zipIdx (fun a => 0 < (key (f a)).toNat) f xs).symm
  rw [hfilter, List.map_take, List.map_mergeSort]
  intro a _ b _
  rfl

/-- The items with a non-zero key, each with its position, as far as the limit
goes: larger keys first and equal ones by their positions. -/
def IsTop (key : α → Nat) (limit : Nat) (xs : List α) (top : List (α × Nat)) : Prop :=
  ∃ order : List (α × Nat), order.Perm (xs.zipIdx.filter (0 < key ·.1)) ∧
    order.Pairwise (Ahead key) ∧ top = order.take limit

theorem isTop_ranking (key : α → Nat) (limit : Nat) (xs : List α) :
    IsTop key limit xs ((ranking key xs).take limit) :=
  ⟨ranking key xs, ranking_perm key xs, ranking_pairwise key xs, rfl⟩

theorem exists_isTop_map (key : β → Counter) (limit : Nat) (f : α → β) (xs : List α) :
    ∃ top, IsTop (fun a => (key (f a)).toNat) limit xs top ∧
      topBy key limit (xs.map f) = top.map fun a => f a.1 :=
  ⟨_, isTop_ranking _ limit xs, topBy_map key limit f xs⟩

theorem IsTop.subperm {key : α → Nat} {limit : Nat} {xs : List α} {top : List (α × Nat)}
    (h : IsTop key limit xs top) : top.Subperm xs.zipIdx := by
  obtain ⟨order, hperm, -, rfl⟩ := h
  exact (List.take_sublist _ _).subperm.trans (hperm.subperm.trans List.filter_sublist.subperm)

theorem IsTop.length_eq {key : α → Nat} {limit : Nat} {xs : List α} {top : List (α × Nat)}
    (h : IsTop key limit xs top) : top.length = min limit (xs.countP (0 < key ·)) := by
  obtain ⟨order, hperm, -, rfl⟩ := h
  have hcount := congrArg List.length (map_filter_zipIdx (fun a => 0 < key a) id xs)
  rw [List.length_map, List.length_map] at hcount
  rw [List.length_take, hperm.length_eq, hcount, List.countP_eq_length_filter]

end

/-! ## The five lists -/

inductive Category where
  | cpuTime
  | storageRead
  | storageWrite
  | blockedTasks
  | majorFaults
deriving DecidableEq, Repr

namespace Category

def list : Category → PackageSummary → List RankedEntry
  | .cpuTime, s => s.cpuTimes
  | .storageRead, s => s.storageReads
  | .storageWrite, s => s.storageWrites
  | .blockedTasks, s => s.blockedTasks
  | .majorFaults, s => s.majorFaults

/-- What the category measures of a package. Bytes of both states add up, but
not past the largest word. -/
def amount : Category → PackageUse → Nat
  | .cpuTime, p => p.cpuTime.toNat
  | .storageRead, p =>
    min (p.storage.read.foreground.toNat + p.storage.read.background.toNat) Counter.limit
  | .storageWrite, p =>
    min (p.storage.write.foreground.toNat + p.storage.write.background.toNat) Counter.limit
  | .blockedTasks, p => p.group.blockedTasks.toNat
  | .majorFaults, p => p.group.majorFaults.toNat

def ShowsCounters : Category → PackageUse → View → Prop
  | .cpuTime, p, v => ∃ processes, v = .cpu p.cpuTime p.group.cpuCycles processes
  | .storageRead, p, v => v = .storage p.storage.read p.storage.fsync
  | .storageWrite, p, v => v = .storage p.storage.write p.storage.fsync
  | .blockedTasks, p, v => ∃ processes, v = .single p.group.blockedTasks.toCounter processes
  | .majorFaults, p, v => ∃ processes, v = .single p.group.majorFaults processes

structure Shows (category : Category) (e : RankedEntry) (p : PackageUse) : Prop where
  uid : e.uid = p.uid
  package : e.package = p.reportedName
  value : e.value.toNat = category.amount p
  counters : category.ShowsCounters p e.view

def entry (bounds : Bounds) : Category → PackageUse → RankedEntry
  | .cpuTime, p => p.cpuEntry bounds.processes
  | .storageRead, p => p.readEntry
  | .storageWrite, p => p.writeEntry
  | .blockedTasks, p => p.blockedEntry bounds.processes
  | .majorFaults, p => p.faultsEntry bounds.processes

theorem list_compute (category : Category) (time : Timestamp) (sample : Sample) (bounds : Bounds)
    (filter : PackageFilter) (previous : Option Record) :
    category.list (Record.compute time sample bounds filter previous).packages =
      rank bounds filter (category.entry bounds) sample.packages := by
  cases category <;> rfl

theorem value_entry (category : Category) (bounds : Bounds) (p : PackageUse) :
    (category.entry bounds p).value.toNat = category.amount p := by
  cases category with
  | storageRead | storageWrite => exact Counter.toNat_plus _ _
  | blockedTasks => exact UInt32.toNat_toUInt64 _
  | cpuTime | majorFaults => rfl

theorem shows_entry (category : Category) (bounds : Bounds) (p : PackageUse) :
    category.Shows (category.entry bounds p) p where
  uid := by cases category <;> rfl
  package := by cases category <;> rfl
  value := category.value_entry bounds p
  counters := by
    cases category with
    | storageRead | storageWrite => rfl
    | cpuTime | blockedTasks | majorFaults => exact ⟨_, rfl⟩

end Category

theorem rank_empty (bounds : Bounds) (entry : PackageUse → RankedEntry) (packages : List PackageUse) :
    rank bounds {} entry packages = topBy (·.value) bounds.packages (packages.map entry) := by
  have hadmits : packages.filter (PackageFilter.admits {} ·.reportedName) = packages :=
    List.filter_eq_self.mpr fun _ _ => rfl
  unfold rank
  rw [hadmits]
  rfl

theorem Category.list_eq_ranking (category : Category) (time : Timestamp) (sample : Sample)
    (bounds : Bounds) (previous : Option Record) :
    category.list (Record.compute time sample bounds {} previous).packages =
      ((ranking category.amount sample.packages).take bounds.packages).map
        fun q => category.entry bounds q.1 := by
  have hamount : (fun p => (category.entry bounds p).value.toNat) = category.amount :=
    funext fun p => category.value_entry bounds p
  rw [category.list_compute, rank_empty, topBy_map, hamount]

/-- **The lists of a record.** Without a filter, a list shows the packages with
a non-zero amount, larger amounts first and equal ones by their position in the
sample, up to the bound: each package once, with its identifier, name and
counters, and all that are left out come after all that are listed. -/
theorem lists_ranked (category : Category) (time : Timestamp) (sample : Sample) (bounds : Bounds)
    (previous : Option Record) :
    let entries := category.list (Record.compute time sample bounds {} previous).packages
    let nonzero := sample.packages.zipIdx.filter (0 < category.amount ·.1)
    ∃ order : List (PackageUse × Nat),
      order.Perm nonzero ∧ order.Pairwise (Ahead category.amount) ∧ (order.map (·.2)).Nodup ∧
      entries.length = min bounds.packages nonzero.length ∧
      List.Forall₂ (fun e q => category.Shows e q.1) entries (order.take bounds.packages) ∧
      ∀ listed ∈ order.take bounds.packages, ∀ left ∈ order.drop bounds.packages,
        Ahead category.amount listed left := by
  intro entries nonzero
  have hperm := ranking_perm category.amount sample.packages
  have hpairwise := ranking_pairwise category.amount sample.packages
  have hentries : entries = ((ranking category.amount sample.packages).take bounds.packages).map
      fun q => category.entry bounds q.1 := category.list_eq_ranking time sample bounds previous
  refine ⟨ranking category.amount sample.packages, hperm, hpairwise, ranking_nodup _ _, ?_, ?_, ?_⟩
  · rw [hentries, List.length_map, List.length_take, hperm.length_eq]
  · rw [hentries, List.forall₂_map_left_iff, List.forall₂_same]
    exact fun q _ => category.shows_entry bounds q.1
  · rw [← List.take_append_drop bounds.packages (ranking _ _), List.pairwise_append] at hpairwise
    exact hpairwise.2.2

end UsageWatch
