import UsageWatch.PackageFilter
import UsageWatch.Record
/-!
# Ranking

Turns the sample of one interval into a record. Without a filter every list
holds the packages with the largest non-zero values; with one it holds all
packages the filter names, in sampling order. Sums always cover every package.
-/

namespace UsageWatch

structure Bounds where
  packages : Nat
  processes : Nat
deriving DecidableEq, Repr

/-- Entries with a non-zero key, largest first and equal keys in their given
order, cut to `limit`. -/
def topBy {α : Type} (key : α → Counter) (limit : Nat) (xs : List α) : List α :=
  ((xs.filter (0 < key ·)).mergeSort fun a b => key b ≤ key a).take limit

namespace PackageUse

def cpuEntry (limit : Nat) (p : PackageUse) : RankedEntry :=
  ⟨p.uid, p.reportedName, .cpu p.cpuTime p.group.cpuCycles
    (topBy (·.cpuTime) limit (p.group.processes.map fun q => ⟨q.command, q.cpuTime, q.cpuCycles⟩))⟩

def readEntry (p : PackageUse) : RankedEntry :=
  ⟨p.uid, p.reportedName, .storage p.storage.read p.storage.fsync⟩

def writeEntry (p : PackageUse) : RankedEntry :=
  ⟨p.uid, p.reportedName, .storage p.storage.write p.storage.fsync⟩

def blockedEntry (limit : Nat) (p : PackageUse) : RankedEntry :=
  ⟨p.uid, p.reportedName, .single p.group.blockedTasks.toCounter
    (topBy (·.value) limit
      (p.group.processes.map fun q => ⟨q.command, q.blockedTasks.toCounter⟩))⟩

def faultsEntry (limit : Nat) (p : PackageUse) : RankedEntry :=
  ⟨p.uid, p.reportedName, .single p.group.majorFaults
    (topBy (·.value) limit (p.group.processes.map fun q => ⟨q.command, q.majorFaults⟩))⟩

end PackageUse

def rank (bounds : Bounds) (filter : PackageFilter) (entry : PackageUse → RankedEntry)
    (packages : List PackageUse) : List RankedEntry :=
  let entries := (packages.filter (filter.admits ·.reportedName)).map entry
  if filter.isEmpty then topBy (·.value) bounds.packages entries else entries

/-- Lists and sums of an interval that follows no other. -/
def summarize (bounds : Bounds) (filter : PackageFilter) (packages : List PackageUse) :
    PackageSummary where
  cpuTimes := rank bounds filter (·.cpuEntry bounds.processes) packages
  storageReads := rank bounds filter (·.readEntry) packages
  storageWrites := rank bounds filter (·.writeEntry) packages
  blockedTasks := rank bounds filter (·.blockedEntry bounds.processes) packages
  majorFaults := rank bounds filter (·.faultsEntry bounds.processes) packages
  storage := packages.foldl (fun total p => total.plus p.storage) {}
  taskCounts := packages.foldl (fun counts p => counts.put p.uid p.group.tasks) {}
  totalCpuTime := Counter.sum (packages.map (·.cpuTime))
  totalCpuCycles := Counter.sum (packages.map (·.group.cpuCycles))
  totalMajorFaults := Counter.sum (packages.map (·.group.majorFaults))

/-- Cycles are measured by package only, so the system's are their sum. -/
def SystemUse.summary (s : SystemUse) (cycles : Counter) : SystemSummary where
  ioWaitTime := s.cpu.ioWait
  idleTime := s.cpu.idle
  cpuTime := s.cpu.total
  cpuCycles := cycles
  contextSwitches := s.contextSwitches
  blockedProcesses := s.blockedProcesses
  processes := s.processes

/-- The record of a sample taken at `time`, after the record `previous`. -/
def Record.compute (time : Timestamp) (sample : Sample) (bounds : Bounds) (filter : PackageFilter)
    (previous : Option Record) : Record :=
  let summary := summarize bounds filter sample.packages
  let before := previous.elim 0 (·.packages.totalMajorFaults)
  { time
    system := sample.system.summary summary.totalCpuCycles
    packages :=
      { summary with majorFaultsChange := percentChange before summary.totalMajorFaults } }

end UsageWatch
