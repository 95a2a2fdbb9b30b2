import UsageWatch.Decimal.Shortest
import UsageWatch.Metrics
/-!
# Exposed metrics

The metrics as named families of labelled samples, and as the text that a
scraper reads.
-/

namespace UsageWatch

structure MetricSample where
  /-- Label names and values, ordered by name. -/
  labels : List (String × String)
  value : Float

inductive MetricType where
  | counter
  | gauge
deriving DecidableEq, Repr

def MetricType.text : MetricType → String
  | .counter => "counter"
  | .gauge => "gauge"

structure MetricFamily where
  name : String
  help : String
  type : MetricType
  samples : List MetricSample

namespace Metrics

def kindSamples {α : Type} (label : String) (toFloat : α → Float) (t : PerKind (Option α)) :
    List MetricSample :=
  CollectionKind.all.filterMap fun k => (t.get k).map fun a => ⟨[(label, k.name)], toFloat a⟩

def topSamples (value : TopCpu → Float) (top : List TopCpu) : List MetricSample :=
  top.map fun t =>
    ⟨[("package", t.package), ("rank", toString t.rank), ("uid", toString t.uid.toNat)], value t⟩

def families (m : Metrics) : List MetricFamily :=
  [⟨"herakles_perf_profiler_cached_records", "Records currently held per collection", .gauge,
      kindSamples "collection" Int64.toFloat m.cached⟩,
   ⟨"herakles_perf_profiler_collection_failures_total",
      "Collection events aborted by a delta source failure", .counter,
      kindSamples "event" UInt64.toFloat m.failures⟩,
   ⟨"herakles_perf_profiler_collections_total", "Collection events processed per event kind",
      .counter, kindSamples "event" UInt64.toFloat m.collections⟩,
   ⟨"herakles_perf_profiler_evicted_records_total",
      "Records dropped from a collection by eviction or clearing", .counter,
      kindSamples "collection" UInt64.toFloat m.evicted⟩,
   ⟨"herakles_perf_profiler_last_collection_timestamp_seconds",
      "Unix time of the last successful collection", .gauge, [⟨[], m.lastCollection⟩]⟩,
   ⟨"herakles_perf_profiler_latest_major_faults_percent_change",
      "Major page fault change against the previous record in percent", .gauge,
      kindSamples "collection" id m.latestChange⟩,
   ⟨"herakles_perf_profiler_latest_total_cpu_time_ms",
      "Total CPU time over all UIDs in the newest record", .gauge,
      kindSamples "collection" Int64.toFloat m.latestCpuTime⟩,
   ⟨"herakles_perf_profiler_latest_total_major_faults",
      "Total major page faults in the newest record", .gauge,
      kindSamples "collection" Int64.toFloat m.latestMajorFaults⟩,
   ⟨"herakles_perf_profiler_top_cpu_percent",
      "Share of total CPU time of the Top-N packages in percent", .gauge,
      topSamples (·.percent) m.topCpu⟩,
   ⟨"herakles_perf_profiler_top_cpu_time_ms",
      "Top-N packages by CPU time in the newest periodic record", .gauge,
      topSamples (·.cpuTime.toFloat) m.topCpu⟩,
   ⟨"herakles_perf_profiler_user_switch_sessions", "Open user-switch sessions", .gauge,
      [⟨[], m.sessions.toFloat⟩]⟩]

end Metrics

namespace MetricFamily

def labelsLe : List (String × String) → List (String × String) → Bool
  | [], _ => true
  | _ :: _, [] => false
  | a :: as, b :: bs => if a.2 = b.2 then labelsLe as bs else decide (a.2 < b.2)

def ordered (f : MetricFamily) : List MetricSample :=
  f.samples.mergeSort fun a b => labelsLe a.labels b.labels

/-! ## Text -/

def escapeLabel (s : String) : String :=
  String.ofList (s.toList.flatMap fun c =>
    if c = '\\' then ['\\', '\\']
    else if c = '\n' then ['\\', 'n']
    else if c = '"' then ['\\', '"']
    else [c])

def labelsText (labels : List (String × String)) : String :=
  if labels.isEmpty then ""
  else
    "\x7b" ++ ",".intercalate (labels.map fun (k, v) => k ++ "=\"" ++ escapeLabel v ++ "\"") ++ "\x7d"

/-- A family without samples is not shown. -/
def text (f : MetricFamily) : String :=
  if f.samples.isEmpty then ""
  else
    "# HELP " ++ f.name ++ " " ++ f.help ++ "\n# TYPE " ++ f.name ++ " " ++ f.type.text ++ "\n"
      ++ String.join (f.ordered.map fun s =>
        f.name ++ labelsText s.labels ++ " " ++ Decimal.text s.value ++ "\n")

end MetricFamily

def expositionText (families : List MetricFamily) : String :=
  String.join ((families.mergeSort fun a b => decide (a.name ≤ b.name)).map (·.text))

end UsageWatch
