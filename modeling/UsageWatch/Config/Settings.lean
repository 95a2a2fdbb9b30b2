import UsageWatch.Config
import UsageWatch.Layout
/-!
# Settings

A configuration as named settings, and back. The names and their order are the
same in every file format; some settings also answer to a hyphenated name, and
every setting left out keeps its default.
-/

namespace UsageWatch

inductive Setting where
  | number (n : Nat)
  | flag (b : Bool)
  | text (s : String)
  | numbers (entries : List (String × Nat))
deriving DecidableEq, Repr

/-- How the values of a format are read as settings. -/
structure SettingReader (α : Type) where
  counter : α → Option UInt64
  port : α → Option UInt16
  flag : α → Option Bool
  text : α → Option String
  entries : α → Option (Entries α)

/-- A setting if it is given, or else its default. -/
def setting {α β : Type} (decode : α → Option β) (default : β) : Option α → Option β
  | none => some default
  | some v => decode v

namespace Intervals

def layout : Layout :=
  [["boottime_interval_millis"], ["periodic_interval_millis"], ["user_switch_interval_millis"],
   ["wake_up_interval_millis"], ["custom_interval_millis"]]

def settings (i : Intervals) : List (String × Nat) :=
  [("boottime_interval_millis", i.bootTime.toNat), ("periodic_interval_millis", i.periodic.toNat),
   ("user_switch_interval_millis", i.userSwitch.toNat),
   ("wake_up_interval_millis", i.wakeUp.toNat), ("custom_interval_millis", i.custom.toNat)]

def decode? {α : Type} (r : SettingReader α) (v : α) : Option Intervals := do
  match ← layout.assign? (← r.entries v) with
  | [bootTime, periodic, userSwitch, wakeUp, custom] =>
    let d : Intervals := {}
    some
      { bootTime := ← setting r.counter d.bootTime bootTime
        periodic := ← setting r.counter d.periodic periodic
        userSwitch := ← setting r.counter d.userSwitch userSwitch
        wakeUp := ← setting r.counter d.wakeUp wakeUp
        custom := ← setting r.counter d.custom custom }
  | _ => none

end Intervals

namespace Config

def layout : Layout :=
  [["top_n_stats_per_category", "top-n-stats-per-category"],
   ["top_n_stats_per_subcategory", "top-n-stats-per-subcategory"],
   ["max_user_switch_events", "max-user-switch-events"],
   ["periodic_collection_buffer_size", "periodic-collection-buffer-size"],
   ["system_event_data_cache_duration_secs", "system-event-data-cache-duration-secs"],
   ["sync_resource_usage_stats", "sync-resource-usage-stats"], ["bind"], ["port"],
   ["sample_interval_secs"], ["log_level"], ["collection_intervals"]]

def settings (c : Config) : List (String × Setting) :=
  [("top_n_stats_per_category", .number c.packagesPerList.toNat),
   ("top_n_stats_per_subcategory", .number c.processesPerPackage.toNat),
   ("max_user_switch_events", .number c.maxSessions.toNat),
   ("periodic_collection_buffer_size", .number c.periodicCapacity.toNat),
   ("system_event_data_cache_duration_secs", .number c.retentionSeconds.toNat),
   ("sync_resource_usage_stats", .flag c.mirrorUsage), ("bind", .text c.bind),
   ("port", .number c.port.toNat), ("sample_interval_secs", .number c.sampleSeconds.toNat),
   ("log_level", .text c.logLevel), ("collection_intervals", .numbers c.intervals.settings)]

def decode? {α : Type} (r : SettingReader α) (v : α) : Option Config := do
  match ← layout.assign? (← r.entries v) with
  | [packages, processes, sessions, periodic, retention, mirror, bind, port, sample, level,
      intervals] =>
    let d : Config := {}
    some
      { packagesPerList := ← setting r.counter d.packagesPerList packages
        processesPerPackage := ← setting r.counter d.processesPerPackage processes
        maxSessions := ← setting r.counter d.maxSessions sessions
        periodicCapacity := ← setting r.counter d.periodicCapacity periodic
        retentionSeconds := ← setting r.counter d.retentionSeconds retention
        mirrorUsage := ← setting r.flag d.mirrorUsage mirror
        bind := ← setting r.text d.bind bind
        port := ← setting r.port d.port port
        sampleSeconds := ← setting r.counter d.sampleSeconds sample
        logLevel := ← setting r.text d.logLevel level
        intervals := ← setting (Intervals.decode? r) d.intervals intervals }
  | _ => none

end Config

end UsageWatch
