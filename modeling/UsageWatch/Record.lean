import UsageWatch.Sample
import UsageWatch.Timestamp
/-!
# Records

A record is one interval, ranked: five lists of packages, sums over every
package, and the system counters. Records are never changed once made.
-/

namespace UsageWatch

structure ProcessValue where
  command : String
  value : Counter
deriving DecidableEq, Repr, Inhabited

structure ProcessCpu where
  command : String
  cpuTime : Counter
  cpuCycles : Counter
deriving DecidableEq, Repr, Inhabited

inductive View where
  | storage (bytes fsyncs : Split)
  | single (value : Counter) (processes : List ProcessValue)
  | cpu (cpuTime cpuCycles : Counter) (processes : List ProcessCpu)
deriving DecidableEq, Repr, Inhabited

def View.value : View → Counter
  | .storage bytes _ => bytes.total
  | .single value _ => value
  | .cpu cpuTime _ _ => cpuTime

structure RankedEntry where
  uid : Count
  package : String
  view : View
deriving DecidableEq, Repr, Inhabited

def RankedEntry.value (e : RankedEntry) : Counter := e.view.value

structure SystemSummary where
  ioWaitTime : Counter := 0
  idleTime : Counter := 0
  cpuTime : Counter := 0
  cpuCycles : Counter := 0
  contextSwitches : Counter := 0
  blockedProcesses : Count := 0
  processes : Count := 0
deriving DecidableEq, Repr, Inhabited

structure TaskCounts where
  toList : List (Count × Count) := []
deriving DecidableEq, Repr, Inhabited

namespace TaskCounts

def get? (m : TaskCounts) (uid : Count) : Option Count := m.toList.lookup uid

/-- The last count written for an identifier stays. -/
def put (m : TaskCounts) (uid tasks : Count) : TaskCounts :=
  ⟨(uid, tasks) :: m.toList.filter (·.1 ≠ uid)⟩

end TaskCounts

structure PackageSummary where
  cpuTimes : List RankedEntry := []
  storageReads : List RankedEntry := []
  storageWrites : List RankedEntry := []
  blockedTasks : List RankedEntry := []
  majorFaults : List RankedEntry := []
  storage : StorageUse := {}
  taskCounts : TaskCounts := {}
  totalCpuTime : Counter := 0
  totalCpuCycles : Counter := 0
  totalMajorFaults : Counter := 0
  /-- Change of the major faults against the record before, in percent. -/
  majorFaultsChange : Float := 0
deriving Inhabited

structure Record where
  time : Timestamp
  system : SystemSummary := {}
  packages : PackageSummary := {}
deriving Inhabited

/-- `part` in percent of `whole`, zero if there is no whole. -/
def percentage (part whole : Counter) : Float :=
  if whole = 0 then 0 else part.toFloat / whole.toFloat * 100

/-- The change from `before` to `after` in percent of `before`, zero if there
was nothing before. -/
def percentChange (before after : Counter) : Float :=
  if before = 0 then 0 else (after.toFloat - before.toFloat) / before.toFloat * 100

end UsageWatch
