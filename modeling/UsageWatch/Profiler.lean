import UsageWatch.Config
import UsageWatch.Metrics
import UsageWatch.Report
import UsageWatch.Usage
import UsageWatch.Wire.Projection
/-!
# The profiler

Holds the collections, and changes them when an event is collected, when the
system starts, or when a collection is cleared. An event whose sources fail
changes nothing but the count of failures.
-/

namespace UsageWatch

/-- The operating mode that a collection takes place in. -/
inductive SystemState where
  | normal
  | garage
deriving DecidableEq, Repr, Inhabited

def SystemState.name : SystemState → String
  | .normal => "normal"
  | .garage => "garage"

def SystemState.ofName? (s : String) : Option SystemState :=
  [SystemState.normal, .garage].find? (·.name = s)

inductive Target where
  | bootTime
  | wakeUp
  | userSwitch (origin target : Count)
  | periodic
  | custom (filter : PackageFilter)
deriving DecidableEq, Repr

namespace Target

def kind : Target → CollectionKind
  | .bootTime => .bootTime
  | .wakeUp => .wakeUp
  | .userSwitch _ _ => .userSwitch
  | .periodic => .periodic
  | .custom _ => .custom

def filter : Target → PackageFilter
  | .custom filter => filter
  | _ => {}

def mirrors : Target → Bool
  | .bootTime | .periodic | .custom _ => true
  | .wakeUp | .userSwitch _ _ => false

end Target

structure Event where
  target : Target
  time : Timestamp
  state : SystemState := .normal
deriving DecidableEq, Repr

/-! ## Sources -/

structure Sources (m : Type → Type) where
  packages : m (Except SourceError (List PackageUse))
  system : m (Except SourceError SystemUse)

/-- Asks each source at most once; the system source only if the other answered. -/
def Sources.sample {m : Type → Type} [Monad m] (s : Sources m) : m (Except ProfilerError Sample) := do
  match ← s.packages with
  | .error e => pure (.error (.source .packages e))
  | .ok packages =>
    match ← s.system with
    | .error e => pure (.error (.source .system e))
    | .ok system => pure (.ok ⟨packages, system⟩)

/-! ## Collections -/

structure Caches where
  bootTime : Collection
  wakeUp : Collection
  periodic : Collection
  custom : Collection
  userSwitch : SessionStore

namespace Caches

def ofConfig (c : Config) : Caches where
  bootTime := { policy := .window c.retention }
  wakeUp := { policy := .window c.retention }
  periodic := { policy := .fifo c.periodicCapacity.toNat }
  custom := { policy := .unbounded }
  userSwitch := { capacity := c.maxSessions.toNat, retention := c.retention }

/-- Records held for a kind, over all sessions for user switches. -/
def recordCount (c : Caches) : CollectionKind → Nat
  | .bootTime => c.bootTime.size
  | .wakeUp => c.wakeUp.size
  | .userSwitch => c.userSwitch.recordCount
  | .periodic => c.periodic.size
  | .custom => c.custom.size

/-- The record that a new one of this target follows. -/
def previous? (c : Caches) : Target → Option Record
  | .bootTime => c.bootTime.last?
  | .wakeUp => c.wakeUp.last?
  | .userSwitch origin target => c.userSwitch.previous? origin target
  | .periodic => c.periodic.last?
  | .custom _ => c.custom.last?

def append (c : Caches) (target : Target) (r : Record) (now : Timestamp) : Caches :=
  match target with
  | .bootTime => { c with bootTime := c.bootTime.append r now }
  | .wakeUp => { c with wakeUp := c.wakeUp.append r now }
  | .userSwitch origin target => { c with userSwitch := c.userSwitch.append origin target r now }
  | .periodic => { c with periodic := c.periodic.append r now }
  | .custom _ => { c with custom := c.custom.append r now }

def displaced (c : Caches) (target : Target) (now : Timestamp) : Nat :=
  match target with
  | .bootTime => c.bootTime.displaced now
  | .wakeUp => c.wakeUp.displaced now
  | .userSwitch origin target =>
    let outcome := c.userSwitch.appendOutcome origin target now
    outcome.displaced + outcome.displacedWithSessions
  | .periodic => c.periodic.displaced now
  | .custom _ => c.custom.displaced now

/-- The periodic event ages out the records of the other system events. -/
def sweep (c : Caches) (now : Timestamp) : Caches :=
  { c with
    bootTime := c.bootTime.sweep now
    wakeUp := c.wakeUp.sweep now
    userSwitch := c.userSwitch.sweep now }

def expired (c : Caches) (now : Timestamp) : CollectionKind → Nat
  | .bootTime => c.bootTime.expired now
  | .wakeUp => c.wakeUp.expired now
  | .userSwitch => c.userSwitch.expired now
  | .periodic | .custom => 0

def clear (c : Caches) : CollectionKind → Caches
  | .bootTime => { c with bootTime := c.bootTime.clear }
  | .wakeUp => { c with wakeUp := c.wakeUp.clear }
  | .userSwitch => { c with userSwitch := c.userSwitch.clear }
  | .periodic => { c with periodic := c.periodic.clear }
  | .custom => { c with custom := c.custom.clear }

def publish (c : Caches) (m : Metrics) : Metrics :=
  (CollectionKind.all.foldl (fun m k => m.setCached k (c.recordCount k)) m).setSessions
    c.userSwitch.size

end Caches

/-! ## The profiler -/

structure Profiler where
  config : Config
  caches : Caches
  /-- Whether collections hand back resource usage. -/
  mirroring : Bool := false
  metrics : Option Metrics := none

abbrev Registry := List String

structure Collected where
  record : Record
  usage : Option ResourceUsage

namespace Profiler

def create (config : Config) : Except ProfilerError Profiler := do
  config.validate
  pure { config, caches := .ofConfig config }

def metricsName : String := "herakles_perf_profiler"

/-- A profiler with metrics, if no other one is registered already. The
configuration is checked first. -/
def createRegistered (config : Config) (registry : Registry) :
    Except ProfilerError (Profiler × Registry) := do
  let p ← create config
  if registry.contains metricsName then throw .metricsTaken
  pure ({ p with metrics := some {} }, metricsName :: registry)

def name : String := "PerformanceProfiler"

def recordCount (p : Profiler) (k : CollectionKind) : Nat := p.caches.recordCount k

def latestPeriodic? (p : Profiler) : Option Record := p.caches.periodic.last?

def clearKinds (p : Profiler) (kinds : List CollectionKind) : Profiler :=
  let caches := kinds.foldl Caches.clear p.caches
  let metrics := p.metrics.map fun m =>
    caches.publish (kinds.foldl (fun m k => m.recordEvictions k (p.recordCount k)) m)
  { p with caches, metrics }

def terminate (p : Profiler) : Profiler := p.clearKinds CollectionKind.all

/-- A new boot cycle begins without records of the last one. -/
def systemStartup (p : Profiler) : Profiler := p.clearKinds [.bootTime, .wakeUp]

def clearCustom (p : Profiler) : Profiler := p.clearKinds [.custom]

/-- Mirrors resource usage from now on if the configuration asks for it. -/
def serviceRegistered (p : Profiler) : Profiler := { p with mirroring := p.config.mirrorUsage }

def setMirroring (p : Profiler) (on : Bool) : Profiler := { p with mirroring := on }

/-- A periodic event first ages out the other collections. -/
def heartbeat (p : Profiler) (event : Event) : Profiler :=
  match event.target with
  | .periodic =>
    let metrics := p.metrics.map fun m =>
      CollectionKind.all.foldl (fun m k => m.recordEvictions k (p.caches.expired event.time k)) m
    { p with caches := p.caches.sweep event.time, metrics }
  | _ => p

def recordOf (p : Profiler) (event : Event) (sample : Sample) : Record :=
  .compute event.time sample p.config.bounds event.target.filter (p.caches.previous? event.target)

def append (p : Profiler) (event : Event) (r : Record) : Profiler :=
  let k := event.target.kind
  let caches := p.caches.append event.target r event.time
  let metrics := p.metrics.map fun m =>
    caches.publish ((m.recordCollection k r).recordEvictions k
      (p.caches.displaced event.target event.time))
  { p with caches, metrics }

def recordFailure (p : Profiler) (k : CollectionKind) : Profiler :=
  { p with metrics := p.metrics.map (·.recordFailure k) }

def collect (p : Profiler) (event : Event) (sampled : Except ProfilerError Sample) :
    Profiler × Except ProfilerError Collected :=
  match sampled with
  | .error e => (p.recordFailure event.target.kind, .error e)
  | .ok sample =>
    let p := p.heartbeat event
    let r := p.recordOf event sample
    let usage :=
      if p.mirroring && event.target.mirrors then
        some (r.usage (p.config.intervals.get event.target.kind))
      else
        none
    (p.append event r, .ok ⟨r, usage⟩)

/-- The usage to hold after an event: what it handed back, or else what was held. -/
def usageAfter (held : Option ResourceUsage) :
    Except ProfilerError Collected → Option ResourceUsage
  | .ok collected => collected.usage.or held
  | .error _ => held

/-! ## Reports -/

def report? (p : Profiler) : Option String := do
  let bootTime ← Report.collectionSection? .bootTime p.caches.bootTime
  let wakeUp ← Report.collectionSection? .wakeUp p.caches.wakeUp
  let userSwitch ← Report.sessionsSection? p.caches.userSwitch
  let periodic ← Report.collectionSection? .periodic p.caches.periodic
  let custom ← Report.collectionSection? .custom p.caches.custom
  some (bootTime ++ wakeUp ++ userSwitch ++ periodic ++ custom)

def customReport? (p : Profiler) : Option String :=
  Report.collectionSection? .custom p.caches.custom

/-- Takes a whole report, or says why not. -/
abbrev Sink (m : Type → Type) := String → m (Except String Unit)

/-- Hands a report to a sink. A report that cannot be made never reaches it. -/
def deliver {m : Type → Type} [Monad m] (kind : ReportKind) (report? : Option String)
    (sink : Sink m) : m (Except ProfilerError Unit) := do
  match report? with
  | none => pure (.error .noDate)
  | some report =>
    match ← sink report with
    | .error reason => pure (.error (.dump kind reason))
    | .ok () => pure (.ok ())

def dump {m : Type → Type} [Monad m] (p : Profiler) (sink : Sink m) :
    m (Except ProfilerError Unit) :=
  deliver .performance p.report? sink

def dumpCustom {m : Type → Type} [Monad m] (p : Profiler) (sink : Sink m) :
    m (Except ProfilerError Unit) :=
  deliver .customCollection p.customReport? sink

/-- Every collection as a message, with the given sampling intervals. -/
def message? (p : Profiler) (intervals : Intervals) : Option Wire.ProfilerDump := do
  let bootTime ← Wire.StatsCollection.ofCollection? p.caches.bootTime intervals.bootTime
  let wakeUp ← Wire.StatsCollection.ofCollection? p.caches.wakeUp intervals.wakeUp
  let userSwitches ← p.caches.userSwitch.sessions.mapM fun s =>
    Wire.StatsCollection.ofCollection? s.collection intervals.userSwitch
  let lastMinutes ← Wire.StatsCollection.ofCollection? p.caches.periodic intervals.periodic
  let custom ← Wire.StatsCollection.ofCollection? p.caches.custom intervals.custom
  some
    { collections := some
        { bootTime := some bootTime, wakeUp := some wakeUp, userSwitches,
          lastMinutes := some lastMinutes, custom := some custom } }

def dumpMessage (p : Profiler) (intervals : Intervals) : Except ProfilerError Wire.ProfilerDump :=
  match p.message? intervals with
  | some m => .ok m
  | none => .error .noDate

def appendMessage (p : Profiler) (intervals : Intervals) (buffer : List UInt8) :
    Except ProfilerError (List UInt8) :=
  (p.dumpMessage intervals).map (buffer ++ ·.encode)

end Profiler

end UsageWatch
