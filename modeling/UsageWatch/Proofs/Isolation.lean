import UsageWatch.Proofs.CacheInput
/-!
# Caches do not interfere

Two runs that agree on what reaches a cache leave it equal, whatever else they
do: other events, failures, dumps, operating modes, mirrored usage, metrics.
-/

namespace UsageWatch

structure Config.SameBounds (c d : Config) : Prop where
  packagesPerList : c.packagesPerList = d.packagesPerList
  processesPerPackage : c.processesPerPackage = d.processesPerPackage
  maxSessions : c.maxSessions = d.maxSessions
  periodicCapacity : c.periodicCapacity = d.periodicCapacity
  retentionSeconds : c.retentionSeconds = d.retentionSeconds

theorem Config.SameBounds.bounds_eq {c d : Config} (h : c.SameBounds d) : c.bounds = d.bounds := by
  unfold bounds
  rw [h.packagesPerList, h.processesPerPackage]

theorem Config.SameBounds.ofConfig_eq {c d : Config} (h : c.SameBounds d) :
    Caches.ofConfig c = Caches.ofConfig d := by
  unfold Caches.ofConfig retention
  rw [h.maxSessions, h.periodicCapacity, h.retentionSeconds]

/-- **Isolation.** A cache depends on the bounds and on what reaches it. -/
theorem caches_isolated {config config' : Config} (hbounds : config.SameBounds config')
    (metered metered' : Bool) (k : CollectionKind) {operations operations' : List Operation}
    (hinputs : operations.filterMap (·.inputFor k) = operations'.filterMap (·.inputFor k)) :
    (ProfilerRun.after config metered operations).profiler.caches.get k =
      (ProfilerRun.after config' metered' operations').profiler.caches.get k := by
  rw [ProfilerRun.get_after, ProfilerRun.get_after, hinputs, hbounds.bounds_eq, hbounds.ofConfig_eq]

/-- Garage mode, other events, failures and mirroring do not show in the boot-time records. -/
theorem caches_isolated_boot :
    let config : Config := { mirrorUsage := true }
    let boot : Event := ⟨.bootTime, .epoch, .normal⟩
    let operations : List Operation :=
      [.serviceRegistered, .collect boot (.ok {}) true,
        .collect ⟨.periodic, .epoch, .garage⟩ (.ok {}) true, .clearCustom]
    let operations' : List Operation :=
      [.collect ⟨.wakeUp, .epoch, .normal⟩ (.ok {}) false, .collect boot (.ok {}) false,
        .collect boot (.error (.source .system .empty)) false, .dump none,
        .collect ⟨.periodic, .epoch, .normal⟩ (.ok {}) false]
    Config.SameBounds config {} ∧
      operations.filterMap (·.inputFor .bootTime) = operations'.filterMap (·.inputFor .bootTime) ∧
      (ProfilerRun.after config true operations).profiler.caches.get .bootTime =
        (ProfilerRun.after {} false operations').profiler.caches.get .bootTime := by
  intro config boot operations operations'
  have hbounds : Config.SameBounds config {} := ⟨rfl, rfl, rfl, rfl, rfl⟩
  exact ⟨hbounds, rfl, caches_isolated hbounds true false .bootTime rfl⟩

end UsageWatch
