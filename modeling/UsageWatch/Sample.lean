import UsageWatch.Counter
/-!
# Samples

What the sources measured over one interval: the use made by every package,
with its processes, and the counters of the whole system.
-/

namespace UsageWatch

/-- Distance between the identifier ranges of two users. -/
def userStride : Count := 100000

def userOf (uid : Count) : Count := uid / userStride

/-- A measurement split by whether the package was in the foreground. -/
structure Split where
  foreground : Counter := 0
  background : Counter := 0
deriving DecidableEq, Repr, Inhabited

namespace Split

def plus (a b : Split) : Split :=
  ⟨a.foreground.plus b.foreground, a.background.plus b.background⟩

def total (a : Split) : Counter := a.foreground.plus a.background

end Split

/-- Storage traffic: bytes read and written, and forced writes. -/
structure StorageUse where
  read : Split := {}
  write : Split := {}
  fsync : Split := {}
deriving DecidableEq, Repr, Inhabited

/-- Adds up state by state, without passing the largest word. -/
def StorageUse.plus (a b : StorageUse) : StorageUse :=
  ⟨a.read.plus b.read, a.write.plus b.write, a.fsync.plus b.fsync⟩

structure ProcessUse where
  pid : Count
  command : String
  startTime : Counter
  cpuTime : Counter
  cpuCycles : Counter
  majorFaults : Counter
  tasks : Count
  blockedTasks : Count
deriving DecidableEq, Repr, Inhabited

structure ProcessGroup where
  cpuTime : Counter := 0
  cpuCycles : Counter := 0
  majorFaults : Counter := 0
  tasks : Count := 0
  blockedTasks : Count := 0
  processes : List ProcessUse := []
deriving DecidableEq, Repr, Inhabited

structure PackageUse where
  uid : Count
  /-- Empty if no name is known. -/
  name : String := ""
  cpuTime : Counter
  storage : StorageUse := {}
  group : ProcessGroup := {}
deriving DecidableEq, Repr, Inhabited

/-- The name a package is reported by: its own, or else its identifier. -/
def PackageUse.reportedName (p : PackageUse) : String :=
  if p.name.isEmpty then toString p.uid.toNat else p.name

/-- Processor time by what it was spent on, in milliseconds. -/
structure CpuTimes where
  user : Counter := 0
  nice : Counter := 0
  system : Counter := 0
  idle : Counter := 0
  ioWait : Counter := 0
  irq : Counter := 0
  softIrq : Counter := 0
  steal : Counter := 0
  guest : Counter := 0
  guestNice : Counter := 0
deriving DecidableEq, Repr, Inhabited

namespace CpuTimes

def parts (t : CpuTimes) : List Counter :=
  [t.user, t.nice, t.system, t.idle, t.ioWait, t.irq, t.softIrq, t.steal, t.guest, t.guestNice]

def total (t : CpuTimes) : Counter := Counter.sum t.parts

/-- Time without work: idle, or waiting for storage. -/
def idleTotal (t : CpuTimes) : Counter := t.idle.plus t.ioWait

end CpuTimes

structure SystemUse where
  cpu : CpuTimes := {}
  contextSwitches : Counter := 0
  runnableProcesses : Count := 0
  blockedProcesses : Count := 0
deriving DecidableEq, Repr, Inhabited

def SystemUse.processes (s : SystemUse) : Count := s.runnableProcesses.plus s.blockedProcesses

structure Sample where
  packages : List PackageUse := []
  system : SystemUse := {}
deriving DecidableEq, Repr, Inhabited

end UsageWatch
