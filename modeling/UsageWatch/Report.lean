import UsageWatch.Calendar
import UsageWatch.CollectionKind
import UsageWatch.Decimal.Fixed
import UsageWatch.SessionStore
/-!
# Text reports

Records as text, in one section for each kind of collection. A section without
records says so, which lets a reader of logs count on the same sections always.
-/

namespace UsageWatch.Report

def line (s : String) : String := s ++ "\n"

/-- `s` underlined, one mark shorter than the text. -/
def underlined (mark : Char) (s : String) : String :=
  line s ++ line ("".pushn mark (s.length - 1))

def emptyMarker : String := "No collection recorded\n"

def cpuHeader : String :=
  "Android User ID, Package Name, CPU Time (ms), Percentage of total CPU time, CPU Cycles\n\tCommand, CPU Time (ms), Percentage of UID's CPU Time, CPU Cycles\n"

def storageHeader : String :=
  "Android User ID, Package Name, Foreground Bytes, Foreground Bytes %, Foreground Fsync, Foreground Fsync %, Background Bytes, Background Bytes %, Background Fsync, Background Fsync %\n"

def blockedHeader : String :=
  "Android User ID, Package Name, Number of owned tasks waiting for I/O, Percentage of owned tasks waiting for I/O\n\tCommand, Number of I/O waiting tasks, Percentage of UID's tasks waiting for I/O\n"

def faultsHeader : String :=
  "Android User ID, Package Name, Number of major page faults, Percentage of total major page faults\n\tCommand, Number of major page faults, Percentage of UID's major page faults\n"

def percentText (x : Float) : String := Decimal.fixed 2 x ++ "%"

def shareText (part whole : Counter) : String := percentText (percentage part whole)

def number (n : Counter) : String := toString n.toNat

def commas (items : List String) : String := ", ".intercalate items

def owner (e : RankedEntry) : List String := [toString (userOf e.uid).toNat, e.package]

def cpuLines (total : Counter) (e : RankedEntry) : String :=
  match e.view with
  | .cpu cpuTime cpuCycles processes =>
    line (commas (owner e ++ [number cpuTime, shareText cpuTime total, number cpuCycles]))
      ++ String.join (processes.map fun p =>
        line ("\t" ++ commas
          [p.command, number p.cpuTime, shareText p.cpuTime cpuTime, number p.cpuCycles]))
  | _ => ""

def storageLine (bytesTotal fsyncTotal : Split) (e : RankedEntry) : String :=
  match e.view with
  | .storage bytes fsyncs =>
    let columns (bytes bytesTotal fsyncs fsyncTotal : Counter) :=
      [number bytes, shareText bytes bytesTotal, number fsyncs, shareText fsyncs fsyncTotal]
    line (commas (owner e
      ++ columns bytes.foreground bytesTotal.foreground fsyncs.foreground fsyncTotal.foreground
      ++ columns bytes.background bytesTotal.background fsyncs.background fsyncTotal.background))
  | _ => ""

def singleLines (total : Counter) (e : RankedEntry) : String :=
  match e.view with
  | .single value processes =>
    line (commas (owner e ++ [number value, shareText value total]))
      ++ String.join (processes.map fun p =>
        line ("\t" ++ commas [p.command, number p.value, shareText p.value value]))
  | _ => ""

/-- Blocked tasks are a share of the tasks of the same identifier. -/
def blockedLines (counts : TaskCounts) (e : RankedEntry) : String :=
  match counts.get? e.uid with
  | some tasks => singleLines tasks.toCounter e
  | none => ""

/-- A titled list, absent if it has no entries. -/
def category (title header : String) (entries : List RankedEntry) (text : RankedEntry → String) :
    String :=
  if entries.isEmpty then ""
  else "\n" ++ underlined '-' title ++ header ++ String.join (entries.map text)

def systemText (s : SystemSummary) : String :=
  line ("Total CPU time (ms): " ++ number s.cpuTime)
    ++ line ("Total CPU cycles: " ++ number s.cpuCycles)
    ++ line ("Total idle CPU time (ms)/percent: " ++ number s.idleTime ++ " / "
      ++ shareText s.idleTime s.cpuTime)
    ++ line ("CPU I/O wait time (ms)/percent: " ++ number s.ioWaitTime ++ " / "
      ++ shareText s.ioWaitTime s.cpuTime)
    ++ line ("Number of context switches: " ++ number s.contextSwitches)
    ++ line ("Number of I/O blocked processes/percent: " ++ toString s.blockedProcesses.toNat ++ " / "
      ++ shareText s.blockedProcesses.toCounter s.processes.toCounter)

def packagesText (p : PackageSummary) : String :=
  category "Top N CPU Times:" cpuHeader p.cpuTimes (cpuLines p.totalCpuTime)
    ++ category "Top N Storage I/O Reads:" storageHeader p.storageReads
      (storageLine p.storage.read p.storage.fsync)
    ++ category "Top N Storage I/O Writes:" storageHeader p.storageWrites
      (storageLine p.storage.write p.storage.fsync)
    ++ category "Top N I/O waiting UIDs:" blockedHeader p.blockedTasks (blockedLines p.taskCounts)
    ++ category "Top N major page faults:" faultsHeader p.majorFaults
      (singleLines p.totalMajorFaults)
    ++ (if p.majorFaults.isEmpty then ""
        else
          line ("Number of major page faults since last collection: " ++ number p.totalMajorFaults)
            ++ line ("Percentage of change in major page faults since last collection: "
              ++ percentText p.majorFaultsChange))

def recordText (r : Record) : String := systemText r.system ++ packagesText r.packages

def numberedRecord (time : CivilTime) (index : Nat) (r : Record) : String :=
  "\n" ++ line ("Collection " ++ toString index ++ ": <" ++ time.reportText ++ ">")
    ++ line ("".pushn '=' 45) ++ recordText r

/-- The records of a collection; none if the calendar does not reach one of
their times. -/
def collectionText? (c : Collection) : Option String :=
  if c.isEmpty then some emptyMarker
  else do
    let records ← c.records.zipIdx.mapM fun (r, i) => r.time.civil?.map (numberedRecord · i r)
    some (line ("Collection duration: " ++ toString c.duration.seconds ++ " seconds")
      ++ line ("Number of collections: " ++ toString c.size) ++ String.join records)

def sectionHeader (k : CollectionKind) : String :=
  line ("".pushn '-' 75) ++ underlined '=' k.title

def collectionSection? (k : CollectionKind) (c : Collection) : Option String :=
  (collectionText? c).map (sectionHeader k ++ ·)

def sessionText? (index : Nat) (s : Session) : Option String :=
  (collectionText? s.collection).map fun body =>
    "\n" ++ line ("Event " ++ toString index ++ ": From: " ++ toString s.origin.toNat ++ " To: "
      ++ toString s.target.toNat) ++ line ("".pushn '=' 26) ++ body

def sessionsText? (s : SessionStore) : Option String :=
  if s.isEmpty then some emptyMarker
  else do
    let sessions ← s.sessions.zipIdx.mapM fun (session, i) => sessionText? i session
    some (line ("Number of user switch events: " ++ toString s.size) ++ String.join sessions)

def sessionsSection? (s : SessionStore) : Option String :=
  (sessionsText? s).map (sectionHeader .userSwitch ++ ·)

end UsageWatch.Report
