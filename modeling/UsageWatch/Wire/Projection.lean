import UsageWatch.Calendar
import UsageWatch.SessionStore
import UsageWatch.Wire.Message
/-!
# Records as messages

The structured form of records and collections. Unsigned measurements become
signed fields and stop at the largest signed value; entries that do not belong
in their list are left out.
-/

namespace UsageWatch.Wire

def DateStamp.ofDate (d : Date) : DateStamp :=
  ⟨Int32.ofInt d.year, Int32.ofNat d.month, Int32.ofNat d.day⟩

def ClockTime.ofTime (t : TimeOfDay) : ClockTime :=
  ⟨Int32.ofNat t.hour, Int32.ofNat t.minute, Int32.ofNat t.second, Int32.ofNat t.millis⟩

def StorageIo.ofSplits (bytes fsyncs : Split) : StorageIo :=
  ⟨bytes.foreground.toSigned, fsyncs.foreground.toSigned, bytes.background.toSigned,
    fsyncs.background.toSigned⟩

def PackageInfo.ofEntry (e : RankedEntry) : PackageInfo := ⟨(userOf e.uid).toSigned, e.package⟩

def PackageCpuStats.ofEntry? (e : RankedEntry) : Option PackageCpuStats :=
  match e.view with
  | .cpu cpuTime cpuCycles processes =>
    some
      { info := some (.ofEntry e)
        cpu := some ⟨cpuTime.toSigned, cpuCycles.toSigned⟩
        processes := processes.map fun p =>
          ⟨p.command, some ⟨p.cpuTime.toSigned, p.cpuCycles.toSigned⟩⟩ }
  | _ => none

def PackageStorageStats.ofEntry? (e : RankedEntry) : Option PackageStorageStats :=
  match e.view with
  | .storage bytes fsyncs => some ⟨some (.ofEntry e), some (.ofSplits bytes fsyncs)⟩
  | _ => none

/-- Needs the task count of the entry's identifier. -/
def PackageTaskStats.ofEntry? (counts : TaskCounts) (e : RankedEntry) : Option PackageTaskStats :=
  match e.view, counts.get? e.uid with
  | .single value processes, some tasks =>
    some
      { info := some (.ofEntry e)
        blockedTasks := value.toSigned32
        totalTasks := tasks.toSigned
        processes := processes.map fun p => ⟨p.command, p.value.toSigned32⟩ }
  | _, _ => none

def PackageFaultStats.ofEntry? (e : RankedEntry) : Option PackageFaultStats :=
  match e.view with
  | .single value _ => some ⟨some (.ofEntry e), value.toSigned⟩
  | _ => none

def SystemStats.ofRecord (r : Record) : SystemStats where
  ioWaitTimeMillis := r.system.ioWaitTime.toSigned
  idleCpuTimeMillis := r.system.idleTime.toSigned
  totalCpuTimeMillis := r.system.cpuTime.toSigned
  totalCpuCycles := r.system.cpuCycles.toSigned
  contextSwitches := r.system.contextSwitches.toSigned
  blockedProcesses := r.system.blockedProcesses.toSigned
  majorPageFaults := r.packages.totalMajorFaults.toSigned
  storageReads := some (.ofSplits r.packages.storage.read r.packages.storage.fsync)
  storageWrites := some (.ofSplits r.packages.storage.write r.packages.storage.fsync)
  processes := r.system.processes.toSigned

/-- None if the calendar does not reach the record's time. -/
def StatsRecord.ofRecord? (id : Nat) (r : Record) : Option StatsRecord :=
  r.time.civil?.map fun time =>
    { id := Int32.ofNat (min id Counter.signedLimit32)
      date := some (.ofDate time.date)
      time := some (.ofTime time.time)
      system := some (.ofRecord r)
      cpu := r.packages.cpuTimes.filterMap PackageCpuStats.ofEntry?
      storageReads := r.packages.storageReads.filterMap PackageStorageStats.ofEntry?
      storageWrites := r.packages.storageWrites.filterMap PackageStorageStats.ofEntry?
      taskStates := r.packages.blockedTasks.filterMap (PackageTaskStats.ofEntry? r.packages.taskCounts)
      majorFaults := r.packages.majorFaults.filterMap PackageFaultStats.ofEntry? }

/-- Records are numbered from zero. -/
def StatsCollection.ofCollection? (c : Collection) (intervalMillis : Counter) :
    Option StatsCollection := do
  let records ← c.records.zipIdx.mapM fun (r, i) => StatsRecord.ofRecord? i r
  some ⟨intervalMillis.toSigned, records⟩

end UsageWatch.Wire
