import UsageWatch.Record
/-!
# Resource usage

The condensed form of a record that is handed back to the watchdog.
-/

namespace UsageWatch

structure SystemUsage where
  cpuNonIdleTime : Counter
  cpuNonIdleCycles : Counter
  cpuIdleTime : Counter
  contextSwitches : Counter
  blockedProcesses : Count
  processes : Count
  majorFaults : Counter
  bytesRead : Counter
  bytesWritten : Counter
deriving DecidableEq, Repr

structure PackageUsage where
  uid : Count
  user : Count
  package : String
  cpuTime : Counter
  cpuCycles : Counter
deriving DecidableEq, Repr

structure ResourceUsage where
  /-- Milliseconds from the epoch to the record. -/
  startMillis : Counter
  durationMillis : Counter
  system : SystemUsage
  packages : List PackageUsage
deriving DecidableEq, Repr

/-- Milliseconds from `start` to `t`, zero if `t` is the earlier one, as a
64-bit word. -/
def Timestamp.millisSince (t start : Timestamp) : Counter :=
  UInt64.ofNat (t.since start / 1000000)

def RankedEntry.packageUsage? (e : RankedEntry) : Option PackageUsage :=
  match e.view with
  | .cpu cpuTime cpuCycles _ => some ⟨e.uid, userOf e.uid, e.package, cpuTime, cpuCycles⟩
  | _ => none

def Record.usage (r : Record) (durationMillis : Counter) : ResourceUsage where
  startMillis := r.time.millisSince .epoch
  durationMillis
  system :=
    { cpuNonIdleTime := r.system.cpuTime.minus r.system.idleTime
      cpuNonIdleCycles := r.system.cpuCycles
      cpuIdleTime := r.system.idleTime
      contextSwitches := r.system.contextSwitches
      blockedProcesses := r.system.blockedProcesses
      processes := r.system.processes
      majorFaults := r.packages.totalMajorFaults
      bytesRead := r.packages.storage.read.total
      bytesWritten := r.packages.storage.write.total }
  packages := r.packages.cpuTimes.filterMap (·.packageUsage?)

end UsageWatch
