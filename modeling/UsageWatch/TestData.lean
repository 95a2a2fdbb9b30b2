import UsageWatch.Replay
/-!
# Synthetic replay data

Made-up samples for trying out the profiler. Every varying number is drawn from
a range; where the draws come from is up to the caller.
-/

namespace UsageWatch.TestData

/-- Draws a number from a range, both ends included. -/
abbrev Draw (G : Type) := (low high : Nat) → StateM G Nat

def packageNames : List String :=
  ["system", "mount", "com.google.android.car.kitchensink", "com.android.car.carlauncher",
   "com.google.android.apps.maps", "com.android.systemui", "com.google.radio",
   "com.android.bluetooth", "com.android.car.media", "com.google.android.gms"]

def processNames : List String :=
  ["init", "logd", "surfaceflinger", "audioserver", "cameraserver", "mediaserver",
   "binder:worker", "RenderThread", "HeapTaskDaemon", "kworker"]

def uidOf : Nat → Nat
  | 0 => 1000
  | 1 => 1009
  | n => 10000 + n

/-- Every seventh package has no name. -/
def nameOf (index : Nat) : String :=
  if 1 < index ∧ index % 7 = 0 then "" else packageNames.getD (index % packageNames.length) ""

variable {G : Type}

def counter (draw : Draw G) (low high : Nat) : StateM G UInt64 := do
  pure (UInt64.ofNat (← draw low high))

def makeProcess (draw : Draw G) (pid : Nat) : StateM G ProcessUse := do
  let tasks ← draw 1 7
  let name ← draw 0 (processNames.length - 1)
  let startTime ← counter draw 0 99999
  let cpuTime ← counter draw 0 4999
  let cpuCycles ← counter draw 0 9999999
  let majorFaults ← counter draw 0 19999
  let blocked ← draw 0 tasks
  pure
    { pid := UInt32.ofNat pid, command := processNames.getD name "", startTime, cpuTime, cpuCycles,
      majorFaults, tasks := UInt32.ofNat tasks, blockedTasks := UInt32.ofNat blocked }

def makeGroup (processes : List ProcessUse) : ProcessGroup where
  cpuTime := Counter.sum (processes.map (·.cpuTime))
  cpuCycles := Counter.sum (processes.map (·.cpuCycles))
  majorFaults := Counter.sum (processes.map (·.majorFaults))
  tasks := (processes.map (·.tasks)).foldl Count.plus 0
  blockedTasks := (processes.map (·.blockedTasks)).foldl Count.plus 0
  processes

def makePackage (draw : Draw G) (maxProcesses firstPid index : Nat) : StateM G PackageUse := do
  let processCount ← if maxProcesses = 0 then pure 0 else draw 1 maxProcesses
  let processes ← (List.range processCount).mapM fun i => makeProcess draw (firstPid + i)
  let group := makeGroup processes
  let foregroundRead ← counter draw 0 49999999
  let backgroundRead ← counter draw 0 9999999
  let foregroundWrite ← counter draw 0 19999999
  let backgroundWrite ← counter draw 0 4999999
  let foregroundFsync ← counter draw 0 199
  let backgroundFsync ← counter draw 0 49
  pure
    { uid := UInt32.ofNat (uidOf index), name := nameOf index, cpuTime := group.cpuTime,
      storage := ⟨⟨foregroundRead, backgroundRead⟩, ⟨foregroundWrite, backgroundWrite⟩,
        ⟨foregroundFsync, backgroundFsync⟩⟩,
      group }

def makePackages (draw : Draw G) (maxProcesses : Nat) :
    (left index pid : Nat) → StateM G (List PackageUse × Nat)
  | 0, _, pid => pure ([], pid)
  | left + 1, index, pid => do
    let p ← makePackage draw maxProcesses pid index
    let (rest, pid) ←
      makePackages draw maxProcesses left (index + 1) (pid + p.group.processes.length)
    pure (p :: rest, pid)

def makeSystem (draw : Draw G) (packages : List PackageUse) : StateM G SystemUse := do
  let user ← counter draw 1000 19999
  let nice ← counter draw 0 1999
  let system ← counter draw 500 9999
  let idle ← counter draw 10000 99999
  let ioWait ← counter draw 0 4999
  let irq ← counter draw 0 999
  let softIrq ← counter draw 0 999
  let contextSwitches ← counter draw 10000 999999
  pure
    { cpu := { user, nice, system, idle, ioWait, irq, softIrq }
      contextSwitches
      runnableProcesses := (packages.map fun p => p.group.tasks - p.group.blockedTasks).foldl (· + ·) 0
      blockedProcesses := (packages.map (·.group.blockedTasks)).foldl (· + ·) 0 }

def makeSamples (draw : Draw G) (packages maxProcesses : Nat) :
    (left pid : Nat) → StateM G (List Sample)
  | 0, _ => pure []
  | left + 1, pid => do
    let (uses, pid) ← makePackages draw maxProcesses packages 0 pid
    let system ← makeSystem draw uses
    let rest ← makeSamples draw packages maxProcesses left pid
    pure (⟨uses, system⟩ :: rest)

def make (draw : Draw G) (generatedAt : String) (samples packages maxProcesses : Nat) :
    StateM G ReplayData := do
  pure ⟨"1.0", generatedAt, ← makeSamples draw packages maxProcesses samples 1000⟩

def lowest : Draw Unit := fun low _ => pure low

def random : Draw StdGen := fun low high => do
  let (n, generator) := randNat (← get) low high
  set generator
  pure n

end UsageWatch.TestData
