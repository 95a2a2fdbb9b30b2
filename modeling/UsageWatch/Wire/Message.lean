import UsageWatch.Wire.Field
/-!
# Dump messages

The message types of a structured dump, their fields on the wire, and their
reading back. Field numbers are part of the format.
-/

namespace UsageWatch.Wire

structure DateStamp where
  year : Int32 := 0
  month : Int32 := 0
  day : Int32 := 0
deriving DecidableEq, Repr, Inhabited

def DateStamp.fields (m : DateStamp) : List Field :=
  int32 1 m.year ++ int32 2 m.month ++ int32 3 m.day

def DateStamp.ofFields? (fs : List Field) : Option DateStamp := do
  let year ← getInt32 1 fs
  let month ← getInt32 2 fs
  let day ← getInt32 3 fs
  some { year, month, day }

structure ClockTime where
  hours : Int32 := 0
  minutes : Int32 := 0
  seconds : Int32 := 0
  millis : Int32 := 0
deriving DecidableEq, Repr, Inhabited

def ClockTime.fields (m : ClockTime) : List Field :=
  int32 1 m.hours ++ int32 2 m.minutes ++ int32 3 m.seconds ++ int32 4 m.millis

def ClockTime.ofFields? (fs : List Field) : Option ClockTime := do
  let hours ← getInt32 1 fs
  let minutes ← getInt32 2 fs
  let seconds ← getInt32 3 fs
  let millis ← getInt32 4 fs
  some { hours, minutes, seconds, millis }

structure StorageIo where
  foregroundBytes : Int64 := 0
  foregroundFsync : Int64 := 0
  backgroundBytes : Int64 := 0
  backgroundFsync : Int64 := 0
deriving DecidableEq, Repr, Inhabited

def StorageIo.fields (m : StorageIo) : List Field :=
  int64 1 m.foregroundBytes ++ int64 2 m.foregroundFsync ++ int64 3 m.backgroundBytes
    ++ int64 4 m.backgroundFsync

def StorageIo.ofFields? (fs : List Field) : Option StorageIo := do
  let foregroundBytes ← getInt64 1 fs
  let foregroundFsync ← getInt64 2 fs
  let backgroundBytes ← getInt64 3 fs
  let backgroundFsync ← getInt64 4 fs
  some { foregroundBytes, foregroundFsync, backgroundBytes, backgroundFsync }

structure SystemStats where
  ioWaitTimeMillis : Int64 := 0
  idleCpuTimeMillis : Int64 := 0
  totalCpuTimeMillis : Int64 := 0
  totalCpuCycles : Int64 := 0
  contextSwitches : Int64 := 0
  blockedProcesses : Int32 := 0
  majorPageFaults : Int64 := 0
  storageReads : Option StorageIo := none
  storageWrites : Option StorageIo := none
  processes : Int32 := 0
deriving DecidableEq, Repr, Inhabited

def SystemStats.fields (m : SystemStats) : List Field :=
  int64 1 m.ioWaitTimeMillis ++ int64 2 m.idleCpuTimeMillis ++ int64 3 m.totalCpuTimeMillis
    ++ int64 4 m.totalCpuCycles ++ int64 5 m.contextSwitches ++ int32 6 m.blockedProcesses
    ++ int64 7 m.majorPageFaults ++ nested 8 StorageIo.fields m.storageReads
    ++ nested 9 StorageIo.fields m.storageWrites ++ int32 10 m.processes

def SystemStats.ofFields? (fs : List Field) : Option SystemStats := do
  let ioWaitTimeMillis ← getInt64 1 fs
  let idleCpuTimeMillis ← getInt64 2 fs
  let totalCpuTimeMillis ← getInt64 3 fs
  let totalCpuCycles ← getInt64 4 fs
  let contextSwitches ← getInt64 5 fs
  let blockedProcesses ← getInt32 6 fs
  let majorPageFaults ← getInt64 7 fs
  let storageReads ← getNested 8 StorageIo.ofFields? fs
  let storageWrites ← getNested 9 StorageIo.ofFields? fs
  let processes ← getInt32 10 fs
  some { ioWaitTimeMillis, idleCpuTimeMillis, totalCpuTimeMillis, totalCpuCycles, contextSwitches,
         blockedProcesses, majorPageFaults, storageReads, storageWrites, processes }

structure PackageInfo where
  userId : Int32 := 0
  packageName : String := ""
deriving DecidableEq, Repr, Inhabited

def PackageInfo.fields (m : PackageInfo) : List Field :=
  int32 1 m.userId ++ text 2 m.packageName

def PackageInfo.ofFields? (fs : List Field) : Option PackageInfo := do
  let userId ← getInt32 1 fs
  let packageName ← getText 2 fs
  some { userId, packageName }

structure CpuStats where
  cpuTimeMillis : Int64 := 0
  cpuCycles : Int64 := 0
deriving DecidableEq, Repr, Inhabited

def CpuStats.fields (m : CpuStats) : List Field :=
  int64 1 m.cpuTimeMillis ++ int64 2 m.cpuCycles

def CpuStats.ofFields? (fs : List Field) : Option CpuStats := do
  let cpuTimeMillis ← getInt64 1 fs
  let cpuCycles ← getInt64 2 fs
  some { cpuTimeMillis, cpuCycles }

structure ProcessCpuStats where
  command : String := ""
  cpu : Option CpuStats := none
deriving DecidableEq, Repr, Inhabited

def ProcessCpuStats.fields (m : ProcessCpuStats) : List Field :=
  text 1 m.command ++ nested 2 CpuStats.fields m.cpu

def ProcessCpuStats.ofFields? (fs : List Field) : Option ProcessCpuStats := do
  let command ← getText 1 fs
  let cpu ← getNested 2 CpuStats.ofFields? fs
  some { command, cpu }

structure PackageCpuStats where
  info : Option PackageInfo := none
  cpu : Option CpuStats := none
  processes : List ProcessCpuStats := []
deriving DecidableEq, Repr, Inhabited

def PackageCpuStats.fields (m : PackageCpuStats) : List Field :=
  nested 1 PackageInfo.fields m.info ++ nested 2 CpuStats.fields m.cpu
    ++ repeated 3 ProcessCpuStats.fields m.processes

def PackageCpuStats.ofFields? (fs : List Field) : Option PackageCpuStats := do
  let info ← getNested 1 PackageInfo.ofFields? fs
  let cpu ← getNested 2 CpuStats.ofFields? fs
  let processes ← getRepeated 3 ProcessCpuStats.ofFields? fs
  some { info, cpu, processes }

structure PackageStorageStats where
  info : Option PackageInfo := none
  storage : Option StorageIo := none
deriving DecidableEq, Repr, Inhabited

def PackageStorageStats.fields (m : PackageStorageStats) : List Field :=
  nested 1 PackageInfo.fields m.info ++ nested 2 StorageIo.fields m.storage

def PackageStorageStats.ofFields? (fs : List Field) : Option PackageStorageStats := do
  let info ← getNested 1 PackageInfo.ofFields? fs
  let storage ← getNested 2 StorageIo.ofFields? fs
  some { info, storage }

structure ProcessTaskStats where
  command : String := ""
  blockedTasks : Int32 := 0
deriving DecidableEq, Repr, Inhabited

def ProcessTaskStats.fields (m : ProcessTaskStats) : List Field :=
  text 1 m.command ++ int32 2 m.blockedTasks

def ProcessTaskStats.ofFields? (fs : List Field) : Option ProcessTaskStats := do
  let command ← getText 1 fs
  let blockedTasks ← getInt32 2 fs
  some { command, blockedTasks }

structure PackageTaskStats where
  info : Option PackageInfo := none
  blockedTasks : Int32 := 0
  totalTasks : Int32 := 0
  processes : List ProcessTaskStats := []
deriving DecidableEq, Repr, Inhabited

def PackageTaskStats.fields (m : PackageTaskStats) : List Field :=
  nested 1 PackageInfo.fields m.info ++ int32 2 m.blockedTasks ++ int32 3 m.totalTasks
    ++ repeated 4 ProcessTaskStats.fields m.processes

def PackageTaskStats.ofFields? (fs : List Field) : Option PackageTaskStats := do
  let info ← getNested 1 PackageInfo.ofFields? fs
  let blockedTasks ← getInt32 2 fs
  let totalTasks ← getInt32 3 fs
  let processes ← getRepeated 4 ProcessTaskStats.ofFields? fs
  some { info, blockedTasks, totalTasks, processes }

structure PackageFaultStats where
  info : Option PackageInfo := none
  majorPageFaults : Int64 := 0
deriving DecidableEq, Repr, Inhabited

def PackageFaultStats.fields (m : PackageFaultStats) : List Field :=
  nested 1 PackageInfo.fields m.info ++ int64 2 m.majorPageFaults

def PackageFaultStats.ofFields? (fs : List Field) : Option PackageFaultStats := do
  let info ← getNested 1 PackageInfo.ofFields? fs
  let majorPageFaults ← getInt64 2 fs
  some { info, majorPageFaults }

structure StatsRecord where
  id : Int32 := 0
  date : Option DateStamp := none
  time : Option ClockTime := none
  system : Option SystemStats := none
  cpu : List PackageCpuStats := []
  storageReads : List PackageStorageStats := []
  storageWrites : List PackageStorageStats := []
  taskStates : List PackageTaskStats := []
  majorFaults : List PackageFaultStats := []
deriving DecidableEq, Repr, Inhabited

def StatsRecord.fields (m : StatsRecord) : List Field :=
  int32 1 m.id ++ nested 2 DateStamp.fields m.date ++ nested 3 ClockTime.fields m.time
    ++ nested 4 SystemStats.fields m.system ++ repeated 5 PackageCpuStats.fields m.cpu
    ++ repeated 6 PackageStorageStats.fields m.storageReads
    ++ repeated 7 PackageStorageStats.fields m.storageWrites
    ++ repeated 8 PackageTaskStats.fields m.taskStates
    ++ repeated 9 PackageFaultStats.fields m.majorFaults

def StatsRecord.ofFields? (fs : List Field) : Option StatsRecord := do
  let id ← getInt32 1 fs
  let date ← getNested 2 DateStamp.ofFields? fs
  let time ← getNested 3 ClockTime.ofFields? fs
  let system ← getNested 4 SystemStats.ofFields? fs
  let cpu ← getRepeated 5 PackageCpuStats.ofFields? fs
  let storageReads ← getRepeated 6 PackageStorageStats.ofFields? fs
  let storageWrites ← getRepeated 7 PackageStorageStats.ofFields? fs
  let taskStates ← getRepeated 8 PackageTaskStats.ofFields? fs
  let majorFaults ← getRepeated 9 PackageFaultStats.ofFields? fs
  some { id, date, time, system, cpu, storageReads, storageWrites, taskStates, majorFaults }

structure StatsCollection where
  intervalMillis : Int64 := 0
  records : List StatsRecord := []
deriving DecidableEq, Repr, Inhabited

def StatsCollection.fields (m : StatsCollection) : List Field :=
  int64 1 m.intervalMillis ++ repeated 2 StatsRecord.fields m.records

def StatsCollection.ofFields? (fs : List Field) : Option StatsCollection := do
  let intervalMillis ← getInt64 1 fs
  let records ← getRepeated 2 StatsRecord.ofFields? fs
  some { intervalMillis, records }

structure CollectionsStats where
  bootTime : Option StatsCollection := none
  wakeUp : Option StatsCollection := none
  userSwitches : List StatsCollection := []
  lastMinutes : Option StatsCollection := none
  custom : Option StatsCollection := none
deriving DecidableEq, Repr, Inhabited

def CollectionsStats.fields (m : CollectionsStats) : List Field :=
  nested 1 StatsCollection.fields m.bootTime ++ nested 2 StatsCollection.fields m.wakeUp
    ++ repeated 3 StatsCollection.fields m.userSwitches
    ++ nested 4 StatsCollection.fields m.lastMinutes ++ nested 5 StatsCollection.fields m.custom

def CollectionsStats.ofFields? (fs : List Field) : Option CollectionsStats := do
  let bootTime ← getNested 1 StatsCollection.ofFields? fs
  let wakeUp ← getNested 2 StatsCollection.ofFields? fs
  let userSwitches ← getRepeated 3 StatsCollection.ofFields? fs
  let lastMinutes ← getNested 4 StatsCollection.ofFields? fs
  let custom ← getNested 5 StatsCollection.ofFields? fs
  some { bootTime, wakeUp, userSwitches, lastMinutes, custom }

structure ProfilerDump where
  collections : Option CollectionsStats := none
deriving DecidableEq, Repr, Inhabited

def ProfilerDump.fields (m : ProfilerDump) : List Field :=
  nested 1 CollectionsStats.fields m.collections

def ProfilerDump.ofFields? (fs : List Field) : Option ProfilerDump := do
  let collections ← getNested 1 CollectionsStats.ofFields? fs
  some { collections }

def ProfilerDump.encode (m : ProfilerDump) : List UInt8 := Wire.encode m.fields

def ProfilerDump.decode? (bs : List UInt8) : Option ProfilerDump :=
  (Wire.decode bs).bind ProfilerDump.ofFields?

end UsageWatch.Wire
