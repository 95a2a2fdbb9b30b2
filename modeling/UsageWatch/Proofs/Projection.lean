import UsageWatch.Proofs.ReportLines
import UsageWatch.Proofs.Totals
import UsageWatch.Wire.Projection
/-!
# Computed records as messages and as text

Messages and reports leave out an entry whose view is not that of its list, and
a blocked one whose identifier has no task count. A computed record has no such
entry, so that its message and its text hold all of its lists (`projection_complete`).
-/

namespace UsageWatch

section
variable {α β : Type} {R : α → β → Prop} {f : α → Option β}

theorem exists_mapM : ∀ {l : List α}, (∀ a ∈ l, ∃ b, f a = some b ∧ R a b) →
    ∃ bs, l.mapM f = some bs ∧ List.Forall₂ R l bs
  | [], _ => ⟨[], rfl, .nil⟩
  | a :: l, h => by
    obtain ⟨b, hb, hab⟩ := h a List.mem_cons_self
    obtain ⟨bs, hbs, hall⟩ := exists_mapM fun c hc => h c (List.mem_cons_of_mem a hc)
    exact ⟨b :: bs, by simp [List.mapM_cons, hb, hbs], .cons hab hall⟩

theorem forall₂_filterMap : ∀ {l : List α}, (∀ a ∈ l, ∃ b, f a = some b ∧ R a b) →
    List.Forall₂ R l (l.filterMap f)
  | [], _ => .nil
  | a :: l, h => by
    obtain ⟨b, hb, hab⟩ := h a List.mem_cons_self
    rw [List.filterMap_cons_some hb]
    exact .cons hab (forall₂_filterMap fun c hc => h c (List.mem_cons_of_mem a hc))

end

/-! ## Signed fields -/

theorem Counter.toInt_toSigned (a : Counter) :
    a.toSigned.toInt = (min a.toNat 0x7fffffffffffffff : Nat) := by
  unfold toSigned signedLimit
  rw [Int64.toInt_ofNat_of_lt (by omega)]

theorem Counter.toInt_toSigned32 (a : Counter) :
    a.toSigned32.toInt = (min a.toNat 0x7fffffff : Nat) := by
  unfold toSigned32 signedLimit32
  rw [Int32.toInt_ofNat_of_lt (by omega)]

theorem Count.toInt_toSigned (a : Count) : a.toSigned.toInt = (min a.toNat 0x7fffffff : Nat) := by
  unfold toSigned Counter.signedLimit32
  rw [Int32.toInt_ofNat_of_lt (by omega)]

/-! ## Entries as messages -/

namespace Wire

structure PackageInfo.Of (m : PackageInfo) (e : RankedEntry) : Prop where
  userId : m.userId.toInt = e.uid.toNat / 100000
  packageName : m.packageName = e.package

structure CpuStats.Of (m : CpuStats) (time cycles : Counter) : Prop where
  time : m.cpuTimeMillis.toInt = (min time.toNat 0x7fffffffffffffff : Nat)
  cycles : m.cpuCycles.toInt = (min cycles.toNat 0x7fffffffffffffff : Nat)

structure StorageIo.Of (m : StorageIo) (bytes fsyncs : Split) : Prop where
  foregroundBytes : m.foregroundBytes.toInt = (min bytes.foreground.toNat 0x7fffffffffffffff : Nat)
  foregroundFsync : m.foregroundFsync.toInt = (min fsyncs.foreground.toNat 0x7fffffffffffffff : Nat)
  backgroundBytes : m.backgroundBytes.toInt = (min bytes.background.toNat 0x7fffffffffffffff : Nat)
  backgroundFsync : m.backgroundFsync.toInt = (min fsyncs.background.toNat 0x7fffffffffffffff : Nat)

structure ProcessCpuStats.Of (m : ProcessCpuStats) (p : ProcessCpu) : Prop where
  command : m.command = p.command
  cpu : ∃ cpu, m.cpu = some cpu ∧ cpu.Of p.cpuTime p.cpuCycles

structure ProcessTaskStats.Of (m : ProcessTaskStats) (p : ProcessValue) : Prop where
  command : m.command = p.command
  blockedTasks : m.blockedTasks.toInt = (min p.value.toNat 0x7fffffff : Nat)

structure PackageCpuStats.Of (m : PackageCpuStats) (e : RankedEntry) : Prop where
  info : ∃ info, m.info = some info ∧ info.Of e
  view : ∃ time cycles processes, e.view = .cpu time cycles processes ∧
    (∃ cpu, m.cpu = some cpu ∧ cpu.Of time cycles) ∧
    List.Forall₂ (fun p q => ProcessCpuStats.Of q p) processes m.processes

structure PackageStorageStats.Of (m : PackageStorageStats) (e : RankedEntry) : Prop where
  info : ∃ info, m.info = some info ∧ info.Of e
  view : ∃ bytes fsyncs, e.view = .storage bytes fsyncs ∧
    ∃ storage, m.storage = some storage ∧ storage.Of bytes fsyncs

structure PackageTaskStats.Of (counts : TaskCounts) (m : PackageTaskStats) (e : RankedEntry) :
    Prop where
  info : ∃ info, m.info = some info ∧ info.Of e
  totalTasks : ∃ tasks, counts.get? e.uid = some tasks ∧
    m.totalTasks.toInt = (min tasks.toNat 0x7fffffff : Nat)
  view : ∃ value processes, e.view = .single value processes ∧
    m.blockedTasks.toInt = (min value.toNat 0x7fffffff : Nat) ∧
    List.Forall₂ (fun p q => ProcessTaskStats.Of q p) processes m.processes

structure PackageFaultStats.Of (m : PackageFaultStats) (e : RankedEntry) : Prop where
  info : ∃ info, m.info = some info ∧ info.Of e
  view : ∃ value processes, e.view = .single value processes ∧
    m.majorPageFaults.toInt = (min value.toNat 0x7fffffffffffffff : Nat)

structure StatsRecord.Keeps (m : StatsRecord) (s : PackageSummary) : Prop where
  cpu : List.Forall₂ (fun e p => PackageCpuStats.Of p e) s.cpuTimes m.cpu
  storageReads : List.Forall₂ (fun e p => PackageStorageStats.Of p e) s.storageReads m.storageReads
  storageWrites : List.Forall₂ (fun e p => PackageStorageStats.Of p e) s.storageWrites m.storageWrites
  taskStates : List.Forall₂ (fun e p => PackageTaskStats.Of s.taskCounts p e) s.blockedTasks
    m.taskStates
  majorFaults : List.Forall₂ (fun e p => PackageFaultStats.Of p e) s.majorFaults m.majorFaults

variable {e : RankedEntry}

theorem PackageInfo.of_ofEntry (e : RankedEntry) : (PackageInfo.ofEntry e).Of e where
  userId := by
    show (userOf e.uid).toSigned.toInt = _
    rw [Count.toInt_toSigned]
    have hlt := e.uid.toNat_lt
    have huser : (userOf e.uid).toNat = e.uid.toNat / 100000 := UInt32.toNat_div _ _
    omega
  packageName := rfl

theorem CpuStats.of_toSigned (time cycles : Counter) :
    CpuStats.Of ⟨time.toSigned, cycles.toSigned⟩ time cycles :=
  ⟨time.toInt_toSigned, cycles.toInt_toSigned⟩

theorem PackageCpuStats.exists_ofEntry {time cycles : Counter} {processes : List ProcessCpu}
    (h : e.view = .cpu time cycles processes) : ∃ m, ofEntry? e = some m ∧ Of m e := by
  unfold ofEntry?
  rw [h]
  refine ⟨_, rfl, ⟨_, rfl, PackageInfo.of_ofEntry e⟩,
    time, cycles, processes, h, ⟨_, rfl, CpuStats.of_toSigned time cycles⟩, ?_⟩
  rw [List.forall₂_map_right_iff, List.forall₂_same]
  exact fun p _ => ⟨rfl, _, rfl, CpuStats.of_toSigned p.cpuTime p.cpuCycles⟩

theorem PackageStorageStats.exists_ofEntry {bytes fsyncs : Split}
    (h : e.view = .storage bytes fsyncs) : ∃ m, ofEntry? e = some m ∧ Of m e := by
  unfold ofEntry?
  rw [h]
  exact ⟨_, rfl, ⟨_, rfl, PackageInfo.of_ofEntry e⟩, bytes, fsyncs, h, _, rfl,
    bytes.foreground.toInt_toSigned, fsyncs.foreground.toInt_toSigned,
    bytes.background.toInt_toSigned, fsyncs.background.toInt_toSigned⟩

theorem PackageTaskStats.exists_ofEntry {counts : TaskCounts} {tasks : Count} {value : Counter}
    {processes : List ProcessValue} (htasks : counts.get? e.uid = some tasks)
    (h : e.view = .single value processes) :
    ∃ m, ofEntry? counts e = some m ∧ Of counts m e := by
  unfold ofEntry?
  rw [h, htasks]
  refine ⟨_, rfl, ⟨_, rfl, PackageInfo.of_ofEntry e⟩, ⟨tasks, htasks, tasks.toInt_toSigned⟩,
    value, processes, h, value.toInt_toSigned32, ?_⟩
  rw [List.forall₂_map_right_iff, List.forall₂_same]
  exact fun p _ => ⟨rfl, p.value.toInt_toSigned32⟩

theorem PackageFaultStats.exists_ofEntry {value : Counter} {processes : List ProcessValue}
    (h : e.view = .single value processes) : ∃ m, ofEntry? e = some m ∧ Of m e := by
  unfold ofEntry?
  rw [h]
  exact ⟨_, rfl, ⟨_, rfl, PackageInfo.of_ofEntry e⟩, value, processes, h, value.toInt_toSigned⟩

end Wire

theorem Wire.StatsRecord.exists_ofRecord (id : Nat) {r : Record} (h : r.time.InCalendar) :
    ∃ m, ofRecord? id r = some m ∧ m.id.toInt = (min id 0x7fffffff : Nat) := by
  have hcivil : r.time.civil? = some _ := if_pos h
  unfold ofRecord?
  rw [hcivil]
  refine ⟨_, rfl, ?_⟩
  show (Int32.ofNat (min id Counter.signedLimit32)).toInt = _
  unfold Counter.signedLimit32
  rw [Int32.toInt_ofNat_of_lt (by omega)]

/-! ## Collections as messages -/

structure Wire.StatsCollection.Of (m : StatsCollection) (c : Collection) (intervalMillis : Counter) :
    Prop where
  intervalMillis : m.intervalMillis.toInt = (min intervalMillis.toNat 0x7fffffffffffffff : Nat)
  records : List.Forall₂ (fun q m => StatsRecord.ofRecord? q.2 q.1 = some m ∧
    m.id.toInt = (min q.2 0x7fffffff : Nat)) c.records.zipIdx m.records

theorem Wire.StatsCollection.exists_ofCollection {c : Collection}
    (h : ∀ r ∈ c.records, r.time.InCalendar) (intervalMillis : Counter) :
    ∃ m, ofCollection? c intervalMillis = some m ∧ m.Of c intervalMillis := by
  obtain ⟨records, hrecords, hall⟩ := exists_mapM
    (f := fun q => StatsRecord.ofRecord? q.2 q.1)
    (R := fun q m => StatsRecord.ofRecord? q.2 q.1 = some m ∧ m.id.toInt = (min q.2 0x7fffffff : Nat))
    (l := c.records.zipIdx) fun q hq => by
      obtain ⟨m, hm⟩ := StatsRecord.exists_ofRecord q.2 (h q.1 (List.fst_mem_of_mem_zipIdx hq))
      exact ⟨m, hm.1, hm⟩
  refine ⟨⟨intervalMillis.toSigned, records⟩, ?_, intervalMillis.toInt_toSigned, hall⟩
  rw [ofCollection?, hrecords]
  rfl

/-! ## Entries of a computed record -/

section
variable (time : Timestamp) (sample : Sample) (bounds : Bounds) (filter : PackageFilter)
  (previous : Option Record)

theorem Category.exists_package (category : Category) {e : RankedEntry}
    (h : e ∈ category.list (Record.compute time sample bounds filter previous).packages) :
    ∃ p ∈ sample.packages, category.Shows e p := by
  obtain ⟨listed, hlisting, hentries⟩ := category.exists_listing time sample bounds filter previous
  rw [hentries, List.mem_map] at h
  obtain ⟨q, hq, rfl⟩ := h
  exact ⟨q.1, List.fst_mem_of_mem_zipIdx (hlisting.subperm.subset hq),
    category.shows_entry bounds q.1⟩

theorem exists_taskCount {p : PackageUse} (h : p ∈ sample.packages) :
    ∃ tasks, (Record.compute time sample bounds filter previous).packages.taskCounts.get? p.uid =
      some tasks := by
  refine Option.isSome_iff_exists.mp ((TaskCounts.isSome_get?_iff _ _).mpr ?_)
  refine (TaskCounts.mem_keys_foldl_put sample.packages p.uid {}).mpr (.inr ?_)
  exact List.mem_map_of_mem h

theorem keeps_compute {id : Nat} {m : Wire.StatsRecord}
    (h : Wire.StatsRecord.ofRecord? id (.compute time sample bounds filter previous) = some m) :
    m.Keeps (Record.compute time sample bounds filter previous).packages := by
  obtain ⟨civil, -, rfl⟩ := Option.map_eq_some_iff.mp h
  constructor
  · refine forall₂_filterMap fun e he => ?_
    obtain ⟨p, -, hshows⟩ := Category.cpuTime.exists_package _ _ _ _ _ he
    obtain ⟨processes, hview⟩ := hshows.counters
    exact Wire.PackageCpuStats.exists_ofEntry hview
  · refine forall₂_filterMap fun e he => ?_
    obtain ⟨p, -, hshows⟩ := Category.storageRead.exists_package _ _ _ _ _ he
    exact Wire.PackageStorageStats.exists_ofEntry hshows.counters
  · refine forall₂_filterMap fun e he => ?_
    obtain ⟨p, -, hshows⟩ := Category.storageWrite.exists_package _ _ _ _ _ he
    exact Wire.PackageStorageStats.exists_ofEntry hshows.counters
  · refine forall₂_filterMap fun e he => ?_
    obtain ⟨p, hp, hshows⟩ := Category.blockedTasks.exists_package _ _ _ _ _ he
    obtain ⟨processes, hview⟩ := hshows.counters
    obtain ⟨tasks, htasks⟩ := exists_taskCount time sample bounds filter previous hp
    rw [← hshows.uid] at htasks
    exact Wire.PackageTaskStats.exists_ofEntry htasks hview
  · refine forall₂_filterMap fun e he => ?_
    obtain ⟨p, -, hshows⟩ := Category.majorFaults.exists_package _ _ _ _ _ he
    obtain ⟨processes, hview⟩ := hshows.counters
    exact Wire.PackageFaultStats.exists_ofEntry hview

theorem printedAs_of_mem {category : Category} {e : RankedEntry}
    (h : e ∈ category.list (Record.compute time sample bounds filter previous).packages) :
    e.PrintedAs
      (category.text (Record.compute time sample bounds filter previous).packages e) := by
  obtain ⟨p, hp, hshows⟩ := category.exists_package time sample bounds filter previous h
  cases category with
  | cpuTime =>
    obtain ⟨processes, hview⟩ := hshows.counters
    exact printedAs_cpuLines _ hview
  | storageRead | storageWrite => exact printedAs_storageLine _ _ hshows.counters
  | blockedTasks =>
    obtain ⟨processes, hview⟩ := hshows.counters
    obtain ⟨tasks, htasks⟩ := exists_taskCount time sample bounds filter previous hp
    rw [← hshows.uid] at htasks
    exact printedAs_blockedLines htasks hview
  | majorFaults =>
    obtain ⟨processes, hview⟩ := hshows.counters
    exact printedAs_singleLines _ hview

end

def Category.heading (s : PackageSummary) (category : Category) : String :=
  if (category.list s).isEmpty then ""
  else "\n" ++ Report.underlined '-' category.title ++ category.header

theorem Category.lines_eq (s : PackageSummary) (category : Category) :
    category.lines s =
      category.heading s ++ String.join ((category.list s).map (category.text s)) := by
  unfold lines Report.category heading
  cases category.list s with
  | nil => rfl
  | cons e rest => simp

/-- **Nothing is left out.** A computed record that the calendar reaches has a
message, in which each list has the entries of the record's list in their
order, with all that they show as far as it fits the fields. In its text each
entry of a list is printed below the heading of the list, in the same order. And
the records of a collection are numbered from 0 in their order. -/
theorem projection_complete (time : Timestamp) (sample : Sample) (bounds : Bounds)
    (filter : PackageFilter) (previous : Option Record) (htime : time.InCalendar) :
    let r := Record.compute time sample bounds filter previous
    (∀ id, ∃ m, Wire.StatsRecord.ofRecord? id r = some m ∧ m.Keeps r.packages) ∧
      (∃ (system change : String) (heading : Category → String) (texts : Category → List String),
        Report.recordText r = system ++ String.join
            (Category.all.map fun category => heading category ++ String.join (texts category)) ++
          change ∧
        ∀ category : Category,
          List.Forall₂ RankedEntry.PrintedAs (category.list r.packages) (texts category)) ∧
      ∀ (c : Collection) (interval : Counter), (∀ r ∈ c.records, r.time.InCalendar) →
        ∃ m, Wire.StatsCollection.ofCollection? c interval = some m ∧
          List.Forall₂ (fun q m => Wire.StatsRecord.ofRecord? q.2 q.1 = some m ∧
            m.id.toInt = (min q.2 0x7fffffff : Nat)) c.records.zipIdx m.records := by
  intro r
  refine ⟨fun id => ?_, ?_, fun c interval hdated => ?_⟩
  · obtain ⟨m, hm, -⟩ := Wire.StatsRecord.exists_ofRecord (r := r) id htime
    exact ⟨m, hm, keeps_compute time sample bounds filter previous hm⟩
  · refine ⟨Report.systemText r.system, changeText r.packages, Category.heading r.packages,
      fun category => (category.list r.packages).map (category.text r.packages), ?_, ?_⟩
    · simp only [← Category.lines_eq]
      rw [Report.recordText, packagesText_eq, ← String.append_assoc]
    · intro category
      rw [List.forall₂_map_right_iff, List.forall₂_same]
      exact fun e he => printedAs_of_mem time sample bounds filter previous he
  · obtain ⟨m, hm, hof⟩ := Wire.StatsCollection.exists_ofCollection hdated interval
    exact ⟨m, hm, hof.records⟩

theorem projection_complete_unnamed :
    let package : PackageUse := { uid := 1012345, cpuTime := 0
                                  group := { majorFaults := 0xffffffffffffffff, tasks := 4
                                             blockedTasks := 2 } }
    let r := Record.compute .epoch { packages := [package] } ⟨5, 5⟩ ⟨["1012345"]⟩ none
    Timestamp.epoch.InCalendar ∧
      (∃ m, Wire.StatsRecord.ofRecord? 5 r = some m ∧ m.Keeps r.packages) ∧
      r.packages.blockedTasks.length = 1 := by
  intro package r
  have htime : Timestamp.epoch.InCalendar := by decide
  exact ⟨htime, (projection_complete .epoch _ _ _ none htime).1 5, by decide⟩

end UsageWatch
