import UsageWatch.Json.Fields
import UsageWatch.Sample
/-!
# Samples in JSON

The written form of samples. A reader accepts every form a writer produces, and
fills in fields that may be left out: the name of a package, its storage use and
its processes, the guest times, and either half of a sample.
-/

namespace UsageWatch

open Json (ofNat ofString ofMembers required optional)

def counterJson (n : Counter) : Json := ofNat n.toNat
def countJson (n : Count) : Json := ofNat n.toNat

theorem counter?_counterJson (n : Counter) : (counterJson n).counter? = some n := by
  have hword : (counterJson n).word? 64 = some n.toNat := by
    simpa [Json.word?, counterJson] using n.toNat_lt
  rw [Json.counter?, hword, Option.map_some, UInt64.ofNat_toNat]

theorem count?_countJson (n : Count) : (countJson n).count? = some n := by
  have hword : (countJson n).word? 32 = some n.toNat := by
    simpa [Json.word?, countJson] using n.toNat_lt
  rw [Json.count?, hword, Option.map_some, UInt32.ofNat_toNat]

namespace Split

def toJson (s : Split) : Json := .array [counterJson s.foreground, counterJson s.background]

def ofJson? (j : Json) : Option Split := do
  match ← j.items? with
  | [foreground, background] => some ⟨← foreground.counter?, ← background.counter?⟩
  | _ => none

end Split

namespace StorageUse

def rowsJson (s : StorageUse) : Json := .array [s.read.toJson, s.write.toJson, s.fsync.toJson]

def toJson (s : StorageUse) : Json := ofMembers [("metrics", s.rowsJson)]

def rows? (j : Json) : Option StorageUse := do
  match ← j.items? with
  | [read, write, fsync] => some ⟨← Split.ofJson? read, ← Split.ofJson? write, ← Split.ofJson? fsync⟩
  | _ => none

def ofJson? (j : Json) : Option StorageUse := do
  match ← j.fields? [["metrics"]] with
  | [rows] => required rows? rows
  | _ => none

end StorageUse

namespace ProcessUse

def toJson (p : ProcessUse) : Json :=
  ofMembers
    [("pid", countJson p.pid), ("comm", ofString p.command), ("start_time", counterJson p.startTime),
     ("cpu_time_ms", counterJson p.cpuTime), ("cpu_cycles", counterJson p.cpuCycles),
     ("major_faults", counterJson p.majorFaults), ("task_count", countJson p.tasks),
     ("io_blocked_task_count", countJson p.blockedTasks)]

def layout : Layout :=
  [["pid"], ["comm"], ["start_time"], ["cpu_time_ms"], ["cpu_cycles"], ["major_faults"],
   ["task_count"], ["io_blocked_task_count"]]

def ofJson? (j : Json) : Option ProcessUse := do
  match ← j.fields? layout with
  | [pid, command, startTime, cpuTime, cpuCycles, majorFaults, tasks, blockedTasks] =>
    some
      { pid := ← required Json.count? pid
        command := ← required Json.text? command
        startTime := ← required Json.counter? startTime
        cpuTime := ← required Json.counter? cpuTime
        cpuCycles := ← required Json.counter? cpuCycles
        majorFaults := ← required Json.counter? majorFaults
        tasks := ← required Json.count? tasks
        blockedTasks := ← required Json.count? blockedTasks }
  | _ => none

end ProcessUse

namespace ProcessGroup

def toJson (g : ProcessGroup) : Json :=
  ofMembers
    [("cpu_time_ms", counterJson g.cpuTime), ("cpu_cycles", counterJson g.cpuCycles),
     ("total_major_faults", counterJson g.majorFaults), ("total_task_count", countJson g.tasks),
     ("io_blocked_task_count", countJson g.blockedTasks),
     ("processes", .array (g.processes.map ProcessUse.toJson))]

def layout : Layout :=
  [["cpu_time_ms"], ["cpu_cycles"], ["total_major_faults"], ["total_task_count"],
   ["io_blocked_task_count"], ["processes"]]

def ofJson? (j : Json) : Option ProcessGroup := do
  match ← j.fields? layout with
  | [cpuTime, cpuCycles, majorFaults, tasks, blockedTasks, processes] =>
    some
      { cpuTime := ← required Json.counter? cpuTime
        cpuCycles := ← required Json.counter? cpuCycles
        majorFaults := ← required Json.counter? majorFaults
        tasks := ← required Json.count? tasks
        blockedTasks := ← required Json.count? blockedTasks
        processes := ← optional (Json.list? ProcessUse.ofJson?) [] processes }
  | _ => none

end ProcessGroup

namespace PackageUse

def toJson (p : PackageUse) : Json :=
  ofMembers
    [("uid", countJson p.uid), ("package_name", ofString p.name),
     ("cpu_time_ms", counterJson p.cpuTime), ("io", p.storage.toJson),
     ("proc_stats", p.group.toJson)]

def layout : Layout := [["uid"], ["package_name"], ["cpu_time_ms"], ["io"], ["proc_stats"]]

def ofJson? (j : Json) : Option PackageUse := do
  match ← j.fields? layout with
  | [uid, name, cpuTime, storage, group] =>
    some
      { uid := ← required Json.count? uid
        name := ← optional Json.text? "" name
        cpuTime := ← required Json.counter? cpuTime
        storage := ← optional StorageUse.ofJson? {} storage
        group := ← optional ProcessGroup.ofJson? {} group }
  | _ => none

end PackageUse

namespace CpuTimes

def toJson (t : CpuTimes) : Json :=
  ofMembers
    [("user", counterJson t.user), ("nice", counterJson t.nice), ("system", counterJson t.system),
     ("idle", counterJson t.idle), ("io_wait", counterJson t.ioWait), ("irq", counterJson t.irq),
     ("soft_irq", counterJson t.softIrq), ("steal", counterJson t.steal),
     ("guest", counterJson t.guest), ("guest_nice", counterJson t.guestNice)]

def layout : Layout :=
  [["user"], ["nice"], ["system"], ["idle"], ["io_wait"], ["irq"], ["soft_irq"], ["steal"],
   ["guest"], ["guest_nice"]]

def ofJson? (j : Json) : Option CpuTimes := do
  match ← j.fields? layout with
  | [user, nice, system, idle, ioWait, irq, softIrq, steal, guest, guestNice] =>
    some
      { user := ← required Json.counter? user
        nice := ← required Json.counter? nice
        system := ← required Json.counter? system
        idle := ← required Json.counter? idle
        ioWait := ← required Json.counter? ioWait
        irq := ← required Json.counter? irq
        softIrq := ← required Json.counter? softIrq
        steal := ← required Json.counter? steal
        guest := ← optional Json.counter? 0 guest
        guestNice := ← optional Json.counter? 0 guestNice }
  | _ => none

end CpuTimes

namespace SystemUse

def toJson (s : SystemUse) : Json :=
  ofMembers
    [("cpu", s.cpu.toJson), ("context_switches", counterJson s.contextSwitches),
     ("runnable_process_count", countJson s.runnableProcesses),
     ("io_blocked_process_count", countJson s.blockedProcesses)]

def layout : Layout :=
  [["cpu"], ["context_switches"], ["runnable_process_count"], ["io_blocked_process_count"]]

def ofJson? (j : Json) : Option SystemUse := do
  match ← j.fields? layout with
  | [cpu, contextSwitches, runnable, blocked] =>
    some
      { cpu := ← required CpuTimes.ofJson? cpu
        contextSwitches := ← required Json.counter? contextSwitches
        runnableProcesses := ← required Json.count? runnable
        blockedProcesses := ← required Json.count? blocked }
  | _ => none

end SystemUse

namespace Sample

def toJson (s : Sample) : Json :=
  ofMembers
    [("uid_deltas", .array (s.packages.map PackageUse.toJson)), ("system_delta", s.system.toJson)]

def ofJson? (j : Json) : Option Sample := do
  match ← j.fields? [["uid_deltas"], ["system_delta"]] with
  | [packages, system] =>
    some
      { packages := ← optional (Json.list? PackageUse.ofJson?) [] packages
        system := ← optional SystemUse.ofJson? {} system }
  | _ => none

end Sample

end UsageWatch
