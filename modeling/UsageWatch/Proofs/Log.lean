import UsageWatch.Proofs.Collection
import UsageWatch.Proofs.History
/-!
# Bounded caches show the end of a log

Were nothing ever given up for room, a cache would be a log in which every
record is computed after the one before it. The periodic cache is the end of
that log, as long as its capacity, and the custom cache is all of it
(`caches_refine_log`). So the capacity has no influence on what a record says.
-/

namespace UsageWatch

/-! ## Logs -/

/-- The records of some events, each computed after the one before it. -/
def recordLog (bounds : Bounds) (filter : Event → PackageFilter) (events : List (Event × Sample)) :
    List Record :=
  events.foldl (fun log (event, sample) =>
    log ++ [.compute event.time sample bounds (filter event) log.getLast?]) []

theorem recordLog_concat (bounds : Bounds) (filter : Event → PackageFilter)
    (events : List (Event × Sample)) (event : Event) (sample : Sample) :
    recordLog bounds filter (events ++ [(event, sample)]) = recordLog bounds filter events ++
      [.compute event.time sample bounds (filter event)
        (recordLog bounds filter events).getLast?] := by
  simp [recordLog]

theorem recordLog_congr {bounds : Bounds} {filter filter' : Event → PackageFilter}
    {events : List (Event × Sample)} (h : ∀ event ∈ events, filter event.1 = filter' event.1) :
    recordLog bounds filter events = recordLog bounds filter' events := by
  induction events using List.reverseRecOn with
  | nil => rfl
  | append_singleton events event ih =>
    rw [recordLog_concat, recordLog_concat, ih fun e he => h e (List.mem_append_left _ he),
      h event (by simp)]

/-! ## The end of a list -/

theorem rtake_rtake {α : Type} (l : List α) (n : Nat) : (l.rtake (n + 1)).rtake n = l.rtake n := by
  simp [List.rtake_eq_reverse_take_reverse, List.take_take]

theorem getLast?_rtake {α : Type} (l : List α) (n : Nat) : (l.rtake (n + 1)).getLast? = l.getLast? := by
  rcases List.eq_nil_or_concat l with rfl | ⟨l, a, rfl⟩
  · simp
  · simp [List.concat_eq_append, List.rtake_concat_succ]

/-! ## One collection -/

/-- What the collection holds is the end of the log: as much as it has room
for, or all of it where room is not bounded. -/
inductive Collection.Ends : Collection → EvictionPolicy → List Record → Prop where
  | fifo (size : Nat) (log : List Record) :
    Ends { policy := .fifo (size + 1), records := log.rtake (size + 1) } (.fifo (size + 1)) log
  | unbounded (log : List Record) : Ends { policy := .unbounded, records := log } .unbounded log

namespace Collection

variable {c : Collection} {policy : EvictionPolicy} {log : List Record}

theorem ends_fifo_nil {size : Nat} (h : 0 < size) : Ends { policy := .fifo size } (.fifo size) [] := by
  obtain ⟨size, rfl⟩ := Nat.exists_eq_add_one.mpr h
  simpa using Ends.fifo size []

theorem Ends.records_fifo {size : Nat} (h : c.Ends (.fifo size) log) :
    c.records = log.rtake size := by
  cases h
  rfl

theorem Ends.records_unbounded (h : c.Ends .unbounded log) : c.records = log := by
  cases h
  rfl

theorem Ends.last?_eq (h : c.Ends policy log) : c.last? = log.getLast? := by
  cases h with
  | fifo size => exact getLast?_rtake log size
  | unbounded => rfl

theorem Ends.append (h : c.Ends policy log) (r : Record) (now : Timestamp) :
    (c.append r now).Ends policy (log ++ [r]) := by
  cases h with
  | fifo size =>
    have hroom : (log.rtake (size + 1)).drop ((log.rtake (size + 1)).length + 1 - (size + 1)) =
        log.rtake size := by
      rw [Nat.add_sub_add_right, ← rtake_rtake log size]
      rfl
    have hrecords : Collection.append { policy := .fifo (size + 1), records := log.rtake (size + 1) }
        r now = { policy := .fifo (size + 1), records := (log ++ [r]).rtake (size + 1) } := by
      simp only [Collection.append, makeRoom, hroom, List.rtake_concat_succ]
    rw [hrecords]
    exact .fifo size _
  | unbounded => exact .unbounded (log ++ [r])

theorem Ends.clear (h : c.Ends policy log) : c.clear.Ends policy [] := by
  cases h with
  | fifo size => exact ends_fifo_nil (Nat.zero_lt_succ size)
  | unbounded => exact .unbounded []

theorem Ends.sweep (h : c.Ends policy log) (now : Timestamp) : (c.sweep now).Ends policy log := by
  cases h with
  | fifo size => exact .fifo size log
  | unbounded => exact .unbounded log

end Collection

/-! ## Runs -/

theorem ProfilerRun.ends_after {k : CollectionKind} {cache : Caches → Collection}
    (hcache : k.IsIn cache) {config : Config} {policy : EvictionPolicy}
    (hempty : (cache (.ofConfig config)).Ends policy []) (metered : Bool)
    (operations : List Operation) :
    (cache (after config metered operations).profiler.caches).Ends policy
      (recordLog config.bounds (·.target.filter) (successes [k] (sinceCleared k operations))) := by
  induction operations using List.reverseRecOn with
  | nil => exact hempty
  | append_singleton operations operation ih =>
    rw [cache_after_concat hcache, sinceCleared_concat]
    rcases operation.inputFor_cases k with ⟨hclears, hinput⟩ |
      ⟨hclears, event, sample, hsuccess, hkind, hinput⟩ |
      ⟨hclears, event, sample, hsuccess, hne, _, hinput⟩ | ⟨hclears, hinput, hne⟩
    · rw [hinput, if_pos hclears]
      exact ih.clear
    · rw [hinput, if_neg (by simp [hclears]), successes_concat hsuccess (by simp [hkind]),
        recordLog_concat, ← ih.last?_eq]
      exact ih.append _ _
    · have hother := Operation.kind_ne_of_success hsuccess hne
      rw [hinput, if_neg (by simp [hclears]), successes_concat_of_ne (by simpa using hother)]
      exact ih.sweep event.time
    · have hother (event : Event) (sample : Sample) := fun h => (hne event sample h).1
      rw [hinput, if_neg (by simp [hclears]), successes_concat_of_ne (by simpa using hother)]
      exact ih

theorem Target.filter_of_periodic {target : Target} (h : target.kind = .periodic) :
    target.filter = {} := by
  cases target <;> first | rfl | cases h

/-- **Refinement.** Whatever the times of the events, the periodic cache holds
the last records of its log, as many as its capacity, and the custom cache all
of its own. -/
theorem caches_refine_log (config : Config) (hcapacity : 0 < config.periodicCapacity.toNat)
    (metered : Bool) (operations : List Operation) :
    let caches := (ProfilerRun.after config metered operations).profiler.caches
    let periodicLog := recordLog config.bounds (fun _ => {})
      (successes [.periodic] (sinceCleared .periodic operations))
    let customLog := recordLog config.bounds (·.target.filter)
      (successes [.custom] (sinceCleared .custom operations))
    caches.periodic.records = periodicLog.rtake config.periodicCapacity.toNat ∧
      caches.custom.records = customLog := by
  intro caches periodicLog customLog
  have hperiodic := ProfilerRun.ends_after periodic_isIn (Collection.ends_fifo_nil hcapacity) metered
    operations
  have hcustom : caches.custom.Ends .unbounded customLog :=
    ProfilerRun.ends_after custom_isIn (.unbounded []) metered operations
  have hlog : periodicLog = recordLog config.bounds (·.target.filter)
      (successes [.periodic] (sinceCleared .periodic operations)) := by
    refine recordLog_congr fun event hevent => (Target.filter_of_periodic ?_).symm
    simpa using (List.mem_filter.mp hevent).2
  rw [hlog]
  exact ⟨hperiodic.records_fifo, hcustom.records_unbounded⟩

/-- With room for one, a record still states its change against the one that it displaced. -/
theorem caches_refine_log_displaced :
    let config : Config := { periodicCapacity := 1 }
    let sample (faults : Counter) : Sample :=
      { packages := [{ uid := 1000, cpuTime := 5, group := { majorFaults := faults } }] }
    let periodic (faults : Counter) : Operation :=
      .collect ⟨.periodic, .epoch, .normal⟩ (.ok (sample faults)) false
    let record (faults : Counter) := Record.compute .epoch (sample faults) config.bounds {}
    0 < config.periodicCapacity.toNat ∧
      (ProfilerRun.after config false [periodic 10, periodic 15]).profiler.caches.periodic.records =
        [record 15 (some (record 10 none))] := by
  intro config sample periodic record
  have hcapacity : 0 < config.periodicCapacity.toNat := by decide
  exact ⟨hcapacity, (caches_refine_log config hcapacity false [periodic 10, periodic 15]).1⟩

end UsageWatch
