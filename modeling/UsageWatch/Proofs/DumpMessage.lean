import UsageWatch.Proofs.CacheInput
import UsageWatch.Proofs.Projection
import UsageWatch.Proofs.WireFormat
/-!
# Structured dumps can be read back

A message of any kind is read back from its fields, and so a dump from its
bytes (`dump_reads_back`). A profiler can be dumped as long as the calendar
reaches every record that it holds. Its dump then has a message for each of its
collections and sessions, and is all that is added to a buffer.
-/

namespace UsageWatch

namespace Wire

/-! ## Messages

Under each number a message has the fields of one member only, so that every
member is found under its own number.
-/

theorem DateStamp.readsBack : ReadsBack DateStamp.fields DateStamp.ofFields? := by
  intro m
  simp only [ofFields?, Option.bind_eq_bind, Option.bind_eq_some_iff]
  refine ⟨_, getInt32_eq ?_, _, getInt32_eq ?_, _, getInt32_eq ?_, rfl⟩ <;> simp [fields]

theorem ClockTime.readsBack : ReadsBack ClockTime.fields ClockTime.ofFields? := by
  intro m
  simp only [ofFields?, Option.bind_eq_bind, Option.bind_eq_some_iff]
  refine ⟨_, getInt32_eq ?_, _, getInt32_eq ?_, _, getInt32_eq ?_, _, getInt32_eq ?_, rfl⟩ <;>
    simp [fields]

theorem StorageIo.readsBack : ReadsBack StorageIo.fields StorageIo.ofFields? := by
  intro m
  simp only [ofFields?, Option.bind_eq_bind, Option.bind_eq_some_iff]
  refine ⟨_, getInt64_eq ?_, _, getInt64_eq ?_, _, getInt64_eq ?_, _, getInt64_eq ?_, rfl⟩ <;>
    simp [fields]

theorem SystemStats.readsBack : ReadsBack SystemStats.fields SystemStats.ofFields? := by
  intro m
  simp only [ofFields?, Option.bind_eq_bind, Option.bind_eq_some_iff]
  refine ⟨_, getInt64_eq ?_, _, getInt64_eq ?_, _, getInt64_eq ?_, _, getInt64_eq ?_,
    _, getInt64_eq ?_, _, getInt32_eq ?_, _, getInt64_eq ?_,
    _, getNested_eq StorageIo.readsBack ?_, _, getNested_eq StorageIo.readsBack ?_,
    _, getInt32_eq ?_, rfl⟩ <;> simp [fields]

theorem PackageInfo.readsBack : ReadsBack PackageInfo.fields PackageInfo.ofFields? := by
  intro m
  simp only [ofFields?, Option.bind_eq_bind, Option.bind_eq_some_iff]
  refine ⟨_, getInt32_eq ?_, _, getText_eq ?_, rfl⟩ <;> simp [fields]

theorem CpuStats.readsBack : ReadsBack CpuStats.fields CpuStats.ofFields? := by
  intro m
  simp only [ofFields?, Option.bind_eq_bind, Option.bind_eq_some_iff]
  refine ⟨_, getInt64_eq ?_, _, getInt64_eq ?_, rfl⟩ <;> simp [fields]

theorem ProcessCpuStats.readsBack : ReadsBack ProcessCpuStats.fields ProcessCpuStats.ofFields? := by
  intro m
  simp only [ofFields?, Option.bind_eq_bind, Option.bind_eq_some_iff]
  refine ⟨_, getText_eq ?_, _, getNested_eq CpuStats.readsBack ?_, rfl⟩ <;> simp [fields]

theorem PackageCpuStats.readsBack : ReadsBack PackageCpuStats.fields PackageCpuStats.ofFields? := by
  intro m
  simp only [ofFields?, Option.bind_eq_bind, Option.bind_eq_some_iff]
  refine ⟨_, getNested_eq PackageInfo.readsBack ?_, _, getNested_eq CpuStats.readsBack ?_,
    _, getRepeated_eq ProcessCpuStats.readsBack ?_, rfl⟩ <;> simp [fields]

theorem PackageStorageStats.readsBack :
    ReadsBack PackageStorageStats.fields PackageStorageStats.ofFields? := by
  intro m
  simp only [ofFields?, Option.bind_eq_bind, Option.bind_eq_some_iff]
  refine ⟨_, getNested_eq PackageInfo.readsBack ?_, _, getNested_eq StorageIo.readsBack ?_, rfl⟩ <;>
    simp [fields]

theorem ProcessTaskStats.readsBack : ReadsBack ProcessTaskStats.fields ProcessTaskStats.ofFields? := by
  intro m
  simp only [ofFields?, Option.bind_eq_bind, Option.bind_eq_some_iff]
  refine ⟨_, getText_eq ?_, _, getInt32_eq ?_, rfl⟩ <;> simp [fields]

theorem PackageTaskStats.readsBack : ReadsBack PackageTaskStats.fields PackageTaskStats.ofFields? := by
  intro m
  simp only [ofFields?, Option.bind_eq_bind, Option.bind_eq_some_iff]
  refine ⟨_, getNested_eq PackageInfo.readsBack ?_, _, getInt32_eq ?_, _, getInt32_eq ?_,
    _, getRepeated_eq ProcessTaskStats.readsBack ?_, rfl⟩ <;> simp [fields]

theorem PackageFaultStats.readsBack :
    ReadsBack PackageFaultStats.fields PackageFaultStats.ofFields? := by
  intro m
  simp only [ofFields?, Option.bind_eq_bind, Option.bind_eq_some_iff]
  refine ⟨_, getNested_eq PackageInfo.readsBack ?_, _, getInt64_eq ?_, rfl⟩ <;> simp [fields]

theorem StatsRecord.readsBack : ReadsBack StatsRecord.fields StatsRecord.ofFields? := by
  intro m
  simp only [ofFields?, Option.bind_eq_bind, Option.bind_eq_some_iff]
  refine ⟨_, getInt32_eq ?_, _, getNested_eq DateStamp.readsBack ?_,
    _, getNested_eq ClockTime.readsBack ?_, _, getNested_eq SystemStats.readsBack ?_,
    _, getRepeated_eq PackageCpuStats.readsBack ?_,
    _, getRepeated_eq PackageStorageStats.readsBack ?_,
    _, getRepeated_eq PackageStorageStats.readsBack ?_,
    _, getRepeated_eq PackageTaskStats.readsBack ?_,
    _, getRepeated_eq PackageFaultStats.readsBack ?_, rfl⟩ <;> simp [fields]

theorem StatsCollection.readsBack : ReadsBack StatsCollection.fields StatsCollection.ofFields? := by
  intro m
  simp only [ofFields?, Option.bind_eq_bind, Option.bind_eq_some_iff]
  refine ⟨_, getInt64_eq ?_, _, getRepeated_eq StatsRecord.readsBack ?_, rfl⟩ <;> simp [fields]

theorem CollectionsStats.readsBack :
    ReadsBack CollectionsStats.fields CollectionsStats.ofFields? := by
  intro m
  simp only [ofFields?, Option.bind_eq_bind, Option.bind_eq_some_iff]
  refine ⟨_, getNested_eq StatsCollection.readsBack ?_, _, getNested_eq StatsCollection.readsBack ?_,
    _, getRepeated_eq StatsCollection.readsBack ?_, _, getNested_eq StatsCollection.readsBack ?_,
    _, getNested_eq StatsCollection.readsBack ?_, rfl⟩ <;> simp [fields]

theorem ProfilerDump.readsBack : ReadsBack ProfilerDump.fields ProfilerDump.ofFields? := by
  intro m
  simp only [ofFields?, Option.bind_eq_bind, Option.bind_eq_some_iff]
  refine ⟨_, getNested_eq CollectionsStats.readsBack ?_, rfl⟩
  simp [fields]

theorem ProfilerDump.decode?_encode (m : ProfilerDump) : decode? m.encode = some m := by
  unfold decode? ProfilerDump.encode
  rw [decode_encode, Option.bind_some, readsBack m]

end Wire

/-! ## Dumps of a profiler -/

structure Caches.Dated (c : Caches) : Prop where
  bootTime : ∀ r ∈ c.bootTime.records, r.time.InCalendar
  wakeUp : ∀ r ∈ c.wakeUp.records, r.time.InCalendar
  userSwitch : ∀ session ∈ c.userSwitch.sessions, ∀ r ∈ session.collection.records,
    r.time.InCalendar
  periodic : ∀ r ∈ c.periodic.records, r.time.InCalendar
  custom : ∀ r ∈ c.custom.records, r.time.InCalendar

structure Wire.CollectionsStats.Of (m : CollectionsStats) (c : Caches) (intervals : Intervals) :
    Prop where
  bootTime : ∃ stats, m.bootTime = some stats ∧ stats.Of c.bootTime intervals.bootTime
  wakeUp : ∃ stats, m.wakeUp = some stats ∧ stats.Of c.wakeUp intervals.wakeUp
  userSwitches : List.Forall₂
    (fun session stats => StatsCollection.Of stats session.collection intervals.userSwitch)
    c.userSwitch.sessions m.userSwitches
  lastMinutes : ∃ stats, m.lastMinutes = some stats ∧ stats.Of c.periodic intervals.periodic
  custom : ∃ stats, m.custom = some stats ∧ stats.Of c.custom intervals.custom

theorem Profiler.exists_message (p : Profiler) (h : p.caches.Dated) (intervals : Intervals) :
    ∃ m stats, p.message? intervals = some m ∧ m.collections = some stats ∧
      stats.Of p.caches intervals := by
  have exists_of {c : Collection} (hc : ∀ r ∈ c.records, r.time.InCalendar) (millis : Counter) :=
    Wire.StatsCollection.exists_ofCollection hc millis
  obtain ⟨bootTime, hbootTime, hboot⟩ := exists_of h.bootTime intervals.bootTime
  obtain ⟨wakeUp, hwakeUp, hwake⟩ := exists_of h.wakeUp intervals.wakeUp
  obtain ⟨sessions, hsessions, hall⟩ := exists_mapM fun session hsession =>
    exists_of (h.userSwitch session hsession) intervals.userSwitch
  obtain ⟨periodic, hperiodic, hlast⟩ := exists_of h.periodic intervals.periodic
  obtain ⟨custom, hcustom, hown⟩ := exists_of h.custom intervals.custom
  unfold Profiler.message?
  rw [hbootTime, hwakeUp, hsessions, hperiodic, hcustom]
  exact ⟨_, _, rfl, rfl, ⟨_, rfl, hboot⟩, ⟨_, rfl, hwake⟩, hall, ⟨_, rfl, hlast⟩, ⟨_, rfl, hown⟩⟩

/-- **Round trip.** Every dump message is read back from its bytes, so no two
have the same bytes. A profiler whose records all have a date can be dumped
with any intervals: the dump has a message for each of its collections and
sessions, and the bytes of just that dump are added behind those in a buffer. -/
theorem dump_reads_back :
    (∀ m : Wire.ProfilerDump, Wire.ProfilerDump.decode? m.encode = some m) ∧
      Function.Injective Wire.ProfilerDump.encode ∧
      ∀ (config : Config) (metered : Bool) (operations : List Operation) (intervals : Intervals)
        (buffer : List UInt8),
        let r := ProfilerRun.after config metered operations
        r.profiler.caches.Dated →
          ∃ m stats, m.collections = some stats ∧ stats.Of r.profiler.caches intervals ∧
            r.perform (.dumpMessage intervals) = (r, .ok (.message m)) ∧
            r.perform (.appendMessage intervals buffer) = (r, .ok (.bytes (buffer ++ m.encode))) := by
  refine ⟨Wire.ProfilerDump.decode?_encode, fun m m' heq => ?_, ?_⟩
  · have hsame : some m = some m' := by
      rw [← Wire.ProfilerDump.decode?_encode m, heq, Wire.ProfilerDump.decode?_encode]
    exact Option.some.inj hsame
  · intro config metered operations intervals buffer r hdated
    obtain ⟨m, stats, hm, hstats, hof⟩ := r.profiler.exists_message hdated intervals
    have hdump : r.profiler.dumpMessage intervals = .ok m := by
      unfold Profiler.dumpMessage
      rw [hm]
    refine ⟨m, stats, hstats, hof, ?_, ?_⟩
    · simp only [ProfilerRun.perform, hdump]
      rfl
    · simp only [ProfilerRun.perform, Profiler.appendMessage, hdump]
      rfl

/-- A record from before the first year has a date, and a year below zero; its
interval stops at the largest signed word. -/
theorem dump_reads_back_early :
    let early : Timestamp := ⟨-62200000000000000000, by decide, by decide⟩
    let sample : Sample := { packages := [{ uid := 1000, cpuTime := 5 }] }
    let boot : Operation := .collect ⟨.bootTime, early, .normal⟩ (.ok sample) false
    let switch : Operation := .collect ⟨.userSwitch 0 10, .epoch, .normal⟩ (.ok sample) false
    let intervals : Intervals := { bootTime := 0xffffffffffffffff }
    let r := ProfilerRun.after {} false [boot, switch]
    r.profiler.caches.Dated ∧
      ∃ m stats first record, m.collections = some stats ∧ stats.bootTime = some first ∧
        first.intervalMillis.toInt = 0x7fffffffffffffff ∧ first.records = [record] ∧
        record.date = some ⟨-2, 12, 17⟩ ∧ record.cpu.length = 1 ∧ stats.userSwitches.length = 1 ∧
        r.perform (.dumpMessage intervals) = (r, .ok (.message m)) ∧
        r.perform (.appendMessage intervals [8, 1]) = (r, .ok (.bytes ([8, 1] ++ m.encode))) ∧
        Wire.ProfilerDump.decode? m.encode = some m := by
  intro early sample boot switch intervals r
  have hbootTime : r.profiler.caches.bootTime.records = [.compute early sample ⟨10, 5⟩ {} none] := by
    rfl
  have hsessions : r.profiler.caches.userSwitch.sessions.map (·.collection.records) =
      [[.compute .epoch sample ⟨10, 5⟩ {} none]] := by rfl
  have hdated : r.profiler.caches.Dated := by
    constructor
    · intro record hrecord
      rw [hbootTime, List.mem_singleton] at hrecord
      rw [hrecord]
      decide
    · exact fun _ hmem => nomatch hmem
    · intro session hsession record hrecord
      have hmem := List.mem_map_of_mem (f := (·.collection.records)) hsession
      rw [hsessions, List.mem_singleton] at hmem
      rw [hmem, List.mem_singleton] at hrecord
      rw [hrecord]
      decide
    all_goals exact fun _ hmem => nomatch hmem
  obtain ⟨hdecode, -, hdump⟩ := dump_reads_back
  obtain ⟨m, stats, hstats, hof, hmessage, hbytes⟩ :=
    hdump {} false [boot, switch] intervals [8, 1] hdated
  obtain ⟨first, hfirst, hinterval, hrecords⟩ := hof.bootTime
  rw [hbootTime, List.zipIdx_singleton, List.forall₂_cons_left_iff] at hrecords
  obtain ⟨record, rest, ⟨hrecord, -⟩, hrest, hall⟩ := hrecords
  rw [List.forall₂_nil_left_iff] at hrest
  rw [hrest] at hall
  have hshown : (Wire.StatsRecord.ofRecord? 0 (.compute early sample ⟨10, 5⟩ {} none)).map
      (fun m => (m.date, m.cpu.length)) = some (some ⟨-2, 12, 17⟩, 1) := by decide +kernel
  rw [hrecord, Option.map_some, Option.some.injEq, Prod.mk.injEq] at hshown
  refine ⟨hdated, m, stats, first, record, hstats, hfirst, hinterval, hall, hshown.1, hshown.2, ?_,
    hmessage, hbytes, hdecode m⟩
  exact hof.userSwitches.length_eq.symm

end UsageWatch
