import UsageWatch.Proofs.Filtering
/-!
# The processes of an entry

Under a package the lists by processor time, blocked tasks and major faults
name its processes: those with a non-zero amount, the largest first and equal
ones as they were sampled, cut to a bound of their own (`processes_ranked`). A
filter for packages changes none of this.
-/

namespace UsageWatch

inductive ProcessMetric where
  | cpuTime
  | blockedTasks
  | majorFaults
deriving DecidableEq, Repr

namespace ProcessMetric

def category : ProcessMetric → Category
  | .cpuTime => .cpuTime
  | .blockedTasks => .blockedTasks
  | .majorFaults => .majorFaults

def amount : ProcessMetric → ProcessUse → Nat
  | .cpuTime, q => q.cpuTime.toNat
  | .blockedTasks, q => q.blockedTasks.toNat
  | .majorFaults, q => q.majorFaults.toNat

def Names : ProcessMetric → View → List ProcessUse → Prop
  | .cpuTime, v, named => ∃ cpuTime cpuCycles,
    v = .cpu cpuTime cpuCycles (named.map fun q => ⟨q.command, q.cpuTime, q.cpuCycles⟩)
  | .blockedTasks, v, named => ∃ value,
    v = .single value (named.map fun q => ⟨q.command, q.blockedTasks.toCounter⟩)
  | .majorFaults, v, named => ∃ value,
    v = .single value (named.map fun q => ⟨q.command, q.majorFaults⟩)

/-- The view names the first processes of the package by the metric. -/
def BreaksDown (metric : ProcessMetric) (limit : Nat) (p : PackageUse) (v : View) : Prop :=
  ∃ top, IsTop metric.amount limit p.group.processes top ∧
    top.length = min limit (p.group.processes.countP (0 < metric.amount ·)) ∧
    metric.Names v (top.map (·.1))

/-- Whatever a view shows of a process, it breaks a package down if it holds the top of them. -/
theorem breaksDown_topBy {β : Type} {key : β → Counter} {shown : ProcessUse → β}
    (metric : ProcessMetric) (view : List β → View)
    (hkey : ∀ q, (key (shown q)).toNat = metric.amount q)
    (hview : ∀ named, metric.Names (view (named.map shown)) named) (limit : Nat) (p : PackageUse) :
    metric.BreaksDown limit p (view (topBy key limit (p.group.processes.map shown))) := by
  obtain ⟨top, htop, hshown⟩ := exists_isTop_map key limit shown p.group.processes
  rw [funext hkey] at htop
  refine ⟨top, htop, htop.length_eq, ?_⟩
  have hnamed : top.map (fun a => shown a.1) = (top.map (·.1)).map shown := (List.map_map ..).symm
  rw [hshown, hnamed]
  exact hview _

theorem breaksDown_entry (metric : ProcessMetric) (bounds : Bounds) (p : PackageUse) :
    metric.BreaksDown bounds.processes p (metric.category.entry bounds p).view := by
  cases metric with
  | cpuTime =>
    exact breaksDown_topBy .cpuTime (View.cpu p.cpuTime p.group.cpuCycles) (fun _ => rfl)
      (fun _ => ⟨_, _, rfl⟩) bounds.processes p
  | blockedTasks =>
    exact breaksDown_topBy .blockedTasks (View.single p.group.blockedTasks.toCounter)
      (fun q => UInt32.toNat_toUInt64 q.blockedTasks) (fun _ => ⟨_, rfl⟩) bounds.processes p
  | majorFaults =>
    exact breaksDown_topBy .majorFaults (View.single p.group.majorFaults) (fun _ => rfl)
      (fun _ => ⟨_, rfl⟩) bounds.processes p

end ProcessMetric

/-- **Processes.** With a filter or without, each entry of a list shows the
package it is listed for, and names the first of that package's processes by the
metric, as many as the bound on processes allows. -/
theorem processes_ranked (metric : ProcessMetric) (time : Timestamp) (sample : Sample)
    (bounds : Bounds) (filter : PackageFilter) (previous : Option Record) :
    ∃ listed, metric.category.Listing bounds filter sample.packages listed ∧
      List.Forall₂ (fun e q => metric.category.Shows e q.1 ∧
          metric.BreaksDown bounds.processes q.1 e.view)
        (metric.category.list (Record.compute time sample bounds filter previous).packages)
        listed := by
  obtain ⟨listed, hlisting, hentries⟩ :=
    metric.category.exists_listing time sample bounds filter previous
  refine ⟨listed, hlisting, ?_⟩
  rw [hentries, List.forall₂_map_left_iff, List.forall₂_same]
  intro q _
  exact ⟨metric.category.shows_entry bounds q.1, metric.breaksDown_entry bounds q.1⟩

end UsageWatch
