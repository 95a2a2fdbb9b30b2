import UsageWatch.CollectionKind
import UsageWatch.Error
import UsageWatch.Record
/-!
# Metrics

What the profiler tells about itself: counts of events, failures and evictions,
how much is held, and the newest record of every kind. A series exists once it
was written.
-/

namespace UsageWatch

/-- Processor time of one package of the newest periodic record. -/
structure TopCpu where
  rank : Nat
  uid : Count
  package : String
  cpuTime : Int64
  percent : Float

structure Metrics where
  collections : PerKind (Option UInt64) := .pure none
  failures : PerKind (Option UInt64) := .pure none
  evicted : PerKind (Option UInt64) := .pure none
  cached : PerKind (Option Int64) := .pure none
  sessions : Int64 := 0
  latestCpuTime : PerKind (Option Int64) := .pure none
  latestMajorFaults : PerKind (Option Int64) := .pure none
  latestChange : PerKind (Option Float) := .pure none
  topCpu : List TopCpu := []
  lastCollection : Float := 0

/-- Seconds from the epoch, for points that are not before it. -/
def Timestamp.unixSeconds? (t : Timestamp) : Option Float :=
  if 0 ≤ t.nanos then
    some (t.seconds.toNat.toUInt64.toFloat + t.subsecond.toUInt64.toFloat / 1000000000)
  else
    none

namespace Metrics

def count (t : PerKind (Option UInt64)) (k : CollectionKind) (n : Nat) : PerKind (Option UInt64) :=
  t.modify k fun old => some (old.getD 0 + UInt64.ofNat n)

def recordFailure (m : Metrics) (k : CollectionKind) : Metrics :=
  { m with failures := count m.failures k 1 }

/-- An eviction of nothing leaves no series behind. -/
def recordEvictions (m : Metrics) (k : CollectionKind) (n : Nat) : Metrics :=
  if n = 0 then m else { m with evicted := count m.evicted k n }

def setCached (m : Metrics) (k : CollectionKind) (n : Nat) : Metrics :=
  { m with cached := m.cached.set k (some (Int64.ofNat (min n Counter.signedLimit))) }

def setSessions (m : Metrics) (n : Nat) : Metrics := { m with sessions := Int64.ofNat n }

/-- The packages of a record's processor list, ranked by their place in it. -/
def topCpuOf (p : PackageSummary) : List TopCpu :=
  p.cpuTimes.zipIdx.filterMap fun (e, i) =>
    match e.view with
    | .cpu cpuTime _ _ =>
      some ⟨i + 1, e.uid, e.package, cpuTime.toSigned, percentage cpuTime p.totalCpuTime⟩
    | _ => none

def recordCollection (m : Metrics) (k : CollectionKind) (r : Record) : Metrics :=
  { m with
    collections := count m.collections k 1
    latestCpuTime := m.latestCpuTime.set k (some r.packages.totalCpuTime.toSigned)
    latestMajorFaults := m.latestMajorFaults.set k (some r.packages.totalMajorFaults.toSigned)
    latestChange := m.latestChange.set k (some r.packages.majorFaultsChange)
    lastCollection := r.time.unixSeconds?.getD m.lastCollection
    topCpu := if k = .periodic then topCpuOf r.packages else m.topCpu }

end Metrics

end UsageWatch
