/-!
# Errors

Why an operation failed, and the text shown for it.
-/

namespace UsageWatch

inductive SourceError where
  | unavailable (reason : String)
  | unreadable (reason : String)
  | empty
deriving DecidableEq, Repr

def SourceError.message : SourceError → String
  | .unavailable reason => "collector unavailable: " ++ reason
  | .unreadable reason => "failed to read delta stats: " ++ reason
  | .empty => "no samples available"

inductive SourceName where
  | packages
  | system
deriving DecidableEq, Repr

def SourceName.text : SourceName → String
  | .packages => "UidStatsCollector"
  | .system => "ProcStatCollector"

inductive ReportKind where
  | performance
  | customCollection
deriving DecidableEq, Repr

def ReportKind.text : ReportKind → String
  | .performance => "performance"
  | .customCollection => "custom collection"

inductive ProfilerError where
  | source (name : SourceName) (cause : SourceError)
  | invalidConfig (reason : String)
  | configLoad (reason : String)
  /-- The receiver of a report refused it. -/
  | dump (report : ReportKind) (reason : String)
  | replay (reason : String)
  /-- Metrics of another profiler are registered under the same names. -/
  | metricsTaken
  /-- The calendar does not reach the time of a record that is to be shown. -/
  | noDate
  /-- A point in time would leave the range of the clock. -/
  | clockOverflow
  /-- A replay file holds nothing to replay. -/
  | noSamples
deriving DecidableEq, Repr

def ProfilerError.message : ProfilerError → String
  | .source name cause => name.text ++ " failed to produce delta stats: " ++ cause.message
  | .invalidConfig reason => "Invalid configuration: " ++ reason
  | .configLoad reason => "Failed to load configuration: " ++ reason
  | .dump report reason => "Failed to dump the " ++ report.text ++ " report: " ++ reason
  | .replay reason => "Failed to load replay data: " ++ reason
  | .metricsTaken =>
    "Failed to register profiler metrics: Duplicate metrics collector registration attempted"
  | .noDate => "record time has no calendar date"
  | .clockOverflow => "time out of range"
  | .noSamples => "replay file contains no samples"

end UsageWatch
