import UsageWatch.Metrics.Series
import UsageWatch.Replay.Source
import UsageWatch.Server.Health
import UsageWatch.Server.Query
import UsageWatch.Usage.Format
/-!
# The server

Drives the profiler from a replay source and answers requests. Startup collects
the boot-time record; every later event first moves on to the next sample, so
that no interval is recorded twice.
-/

namespace UsageWatch

structure Server where
  profiler : Profiler
  source : ReplaySource
  outcomes : Outcomes := {}
  /-- Usage handed back by the newest periodic collection. -/
  usage : Option ResourceUsage := none
  startedAt : Timestamp
  /-- Length of the last scrape in seconds. -/
  scrapeSeconds : Float := 0

inductive Body where
  | text (s : String)
  | bytes (bs : List UInt8)

structure Response where
  status : Nat
  contentType : Option String
  body : Body

namespace Response

def plainType : String := "text/plain; charset=utf-8"

def plain (status : Nat) (s : String) : Response := ⟨status, some plainType, .text s⟩

def bare (status : Nat) : Response := ⟨status, none, .text ""⟩

def dumpFailed (e : ProfilerError) : Response :=
  plain 500 ("Failed to dump collections: " ++ e.message)

def metricsFailed : Response := plain 500 "Failed to encode metrics"

def ofCollection : Except ProfilerError Collected → Response
  | .ok _ => plain 200 "Collection recorded\n"
  | .error e => plain 503 ("Collection failed: " ++ e.message ++ "\n")

def withoutBody (r : Response) : Response := { r with body := .text "" }

end Response

namespace Server

/-! ## Events

An event is four steps on the shared state: the source moves on, its two halves
are read, and the profiler ranks them and adds the record.
-/

def advance (s : Server) : Server := { s with source := s.source.advance }

def recordOutcome (s : Server) (now : Timestamp) : Except ProfilerError Collected → Server
  | .ok _ => { s with outcomes := s.outcomes.succeeded now }
  | .error e => { s with outcomes := s.outcomes.failedWith e.message }

/-- The last step of an event. Only the regular events keep the usage they hand
back. -/
def complete (s : Server) (event : Event) (sampled : Except ProfilerError Sample) :
    Server × Except ProfilerError Collected :=
  let (profiler, result) := s.profiler.collect event sampled
  let usage :=
    match event.target with
    | .periodic => Profiler.usageAfter s.usage result
    | _ => s.usage
  ({ s with profiler, usage }.recordOutcome event.time result, result)

def collect (s : Server) (event : Event) : Server × Except ProfilerError Collected :=
  s.complete event s.source.sample

def trigger (s : Server) (event : Event) : Server × Response :=
  let (s, result) := s.advance.collect event
  (s, .ofCollection result)

def tick (s : Server) (now : Timestamp) : Server :=
  (s.advance.collect ⟨.periodic, now, .normal⟩).1

/-- The regular event once an interval has passed since the last one, with the
time of the last one then. -/
def tickIfDue (s : Server) (last now : Timestamp) : Server × Timestamp :=
  if s.profiler.config.sampleInterval ≤ now.since last then (s.tick now, now) else (s, last)

/-- Starts up: a configuration that does not hold is reported before replay data
that cannot be had. -/
def start (config : Config) (data : Except ProfilerError ReplayData) (now : Timestamp) :
    Except ProfilerError Server := do
  let (profiler, _) ← Profiler.createRegistered config []
  let data ← data
  let s : Server := { profiler := profiler.systemStartup, source := .ofData data, startedAt := now }
  let (s, _) := s.collect ⟨.bootTime, now, .normal⟩
  pure { s with profiler := s.profiler.serviceRegistered }

/-! ## Requests -/

def counts (s : Server) : List (CollectionKind × Nat) :=
  CollectionKind.all.map fun k => (k, s.profiler.recordCount k)

def ofReport : Option String → Response
  | some report => .plain 200 report
  | none => .dumpFailed .noDate

def dumpMessage (s : Server) : Response :=
  match s.profiler.appendMessage s.profiler.config.intervals [] with
  | .ok bytes => ⟨200, some "application/x-protobuf", .bytes bytes⟩
  | .error e => .dumpFailed e

def resourceUsage (s : Server) : Response :=
  match s.usage with
  | some usage => ⟨200, some "application/json", .text usage.toJson.compact⟩
  | none => .plain 404 "No resource usage collected yet\n"

def scrapeFamily (s : Server) : MetricFamily :=
  ⟨"herakles_perf_profiler_scrape_duration_seconds", "Duration of the previous /metrics request",
    .gauge, [⟨[], s.scrapeSeconds⟩]⟩

def metricsText (s : Server) : String :=
  expositionText (s.scrapeFamily :: s.profiler.metrics.elim [] Metrics.families)

def health (s : Server) (now : Timestamp) : Response :=
  let latest := s.profiler.latestPeriodic?.map (·.system.cpuTime)
  match Health.table? s.outcomes s.counts latest (Duration.seconds (now.since s.startedAt)) with
  | some table =>
    .plain (if s.outcomes.isHealthy then 200 else 503)
      (s.outcomes.summary ++ "\n\n" ++ table ++ "\n" ++ Health.footer)
  | none => .dumpFailed .noDate

def page? (s : Server) (path : String) (now : Timestamp) : Option Response :=
  match path with
  | "/dump" => some (ofReport s.profiler.report?)
  | "/dump/custom" => some (ofReport s.profiler.customReport?)
  | "/dump/proto" => some s.dumpMessage
  | "/resource-usage" => some s.resourceUsage
  | "/metrics" => some (.plain 200 s.metricsText)
  | "/health" => some (s.health now)
  | _ => none

def request? (target : RequestTarget) : Option (Option (Target × SystemState)) :=
  match target.path with
  | "/collect/wake-up" => some (some (.wakeUp, .normal))
  | "/collect/user-switch" => some ((Query.userSwitch? target.query).map (·, .normal))
  | "/collect/custom" => some (Query.custom? target.query)
  | _ => none

/-- Answers a request. A known path asked in the wrong way is told apart from an
unknown one, and a query that cannot be read changes nothing. -/
def respond (s : Server) (method uri : String) (now : Timestamp) : Server × Response :=
  let target := RequestTarget.parse uri
  match s.page? target.path now, request? target with
  | some page, _ =>
    if method = "GET" then (s, page)
    else if method = "HEAD" then (s, page.withoutBody)
    else if method = "DELETE" ∧ target.path = "/dump/custom" then
      ({ s with profiler := s.profiler.clearCustom }, .plain 200 "Custom collection cleared\n")
    else (s, .bare 405)
  | none, some parameters =>
    if method = "POST" then
      match parameters with
      | some (t, state) => s.trigger ⟨t, now, state⟩
      | none => (s, .plain 400 "Failed to deserialize query string")
    else (s, .bare 405)
  | none, none => (s, .bare 404)

def recordScrape (s : Server) (seconds : Float) : Server := { s with scrapeSeconds := seconds }

end Server

end UsageWatch
