import UsageWatch.CollectionKind
import UsageWatch.Error
import UsageWatch.Ranking
/-!
# Configuration

Every bound of the profiler, and the settings of the program around it.
-/

namespace UsageWatch

/-- Sampling intervals in milliseconds, as reported with a structured dump. -/
structure Intervals where
  bootTime : Counter := 1000
  periodic : Counter := 60000
  userSwitch : Counter := 2000
  wakeUp : Counter := 2000
  custom : Counter := 10000
deriving DecidableEq, Repr, Inhabited

def Intervals.get (i : Intervals) : CollectionKind → Counter
  | .bootTime => i.bootTime
  | .wakeUp => i.wakeUp
  | .userSwitch => i.userSwitch
  | .periodic => i.periodic
  | .custom => i.custom

structure Config where
  packagesPerList : UInt64 := 10
  processesPerPackage : UInt64 := 5
  maxSessions : UInt64 := 3
  periodicCapacity : UInt64 := 180
  /-- How long boot-time, wake-up and user-switch records are kept. -/
  retentionSeconds : UInt64 := 3600
  mirrorUsage : Bool := false
  bind : String := "0.0.0.0"
  port : UInt16 := 9216
  sampleSeconds : UInt64 := 60
  logLevel : String := "info"
  intervals : Intervals := {}
deriving DecidableEq, Repr, Inhabited

namespace Config

def bounds (c : Config) : Bounds := ⟨c.packagesPerList.toNat, c.processesPerPackage.toNat⟩

def retention (c : Config) : Duration := .ofSeconds c.retentionSeconds.toNat

def sampleInterval (c : Config) : Duration := .ofSeconds c.sampleSeconds.toNat

/-- The bounds that must not be zero, by their names in a file. -/
def positiveBounds (c : Config) : List (String × UInt64) :=
  [("top_n_stats_per_category", c.packagesPerList),
   ("top_n_stats_per_subcategory", c.processesPerPackage),
   ("max_user_switch_events", c.maxSessions),
   ("periodic_collection_buffer_size", c.periodicCapacity),
   ("system_event_data_cache_duration_secs", c.retentionSeconds),
   ("sample_interval_secs", c.sampleSeconds)]

/-- Fails for the first bound that is zero. -/
def validate (c : Config) : Except ProfilerError Unit :=
  match c.positiveBounds.find? (·.2 = 0) with
  | some (name, _) => .error (.invalidConfig (name ++ " must be greater than 0"))
  | none => .ok ()

end Config

end UsageWatch
