import Mathlib.Data.UInt
import UsageWatch.Proofs.ServerEvent
import UsageWatch.Proofs.ServerRequest
import UsageWatch.Proofs.Telemetry
/-!
# What a server keeps count of

The source, the outcomes and the metrics of a server are kept apart, and every
path that leads to an event changes each of them once. So they agree whatever
reaches the server, and in whatever order (`server_accounts`): with samples every
event takes the next one, and without any every event fails.
-/

namespace UsageWatch

/-! ## Incidents -/

def Incident.answer? : Incident → Response → Option Response
  | .tick _, _ => none
  | .request _ _ _, response => some response

namespace Server

theorem page?_eq_none {target : RequestTarget} (h : request? target ≠ none) (s : Server)
    (now : Timestamp) : s.page? target.path now = none := by
  unfold request? at h
  split at h
  · next hpath => rw [hpath]; rfl
  · next hpath => rw [hpath]; rfl
  · next hpath => rw [hpath]; rfl
  · exact absurd rfl h

theorem respond_page {s : Server} {uri : String} {now : Timestamp} {page : Response}
    (h : s.page? (RequestTarget.parse uri).path now = some page) :
    s.respond "GET" uri now = (s, page) := by
  unfold respond
  simp only [h, if_true]

theorem handle_of_event {incident : Incident} {event : Event} (h : incident.event? = some event)
    (s : Server) :
    s.handle incident = ((s.advance.collect event).1,
      incident.answer? (.ofCollection (s.advance.collect event).2)) := by
  cases incident with
  | tick now =>
    cases h
    rfl
  | request method uri now =>
    simp only [Incident.event?] at h
    by_cases hmethod : method = "POST"
    · rw [if_pos hmethod] at h
      obtain ⟨⟨target, state⟩, hjoin, rfl⟩ := Option.map_eq_some_iff.mp h
      have hrequest : request? (.parse uri) = some (some (target, state)) :=
        Option.join_eq_some_iff.mp hjoin
      have hsome : request? (.parse uri) ≠ none := by
        rw [hrequest]
        exact Option.some_ne_none _
      have hpage := page?_eq_none hsome s now
      simp only [handle, respond, hpage, hrequest, hmethod, if_true]
      rfl
    · rw [if_neg hmethod] at h
      cases h

/-- At most the custom records are given up. -/
theorem handle_of_no_event {incident : Incident} (h : incident.event? = none) (s : Server) :
    (s.handle incident).1 = s ∨
      (s.handle incident).1 = { s with profiler := s.profiler.clearCustom } := by
  cases incident with
  | tick now => cases h
  | request method uri now =>
    simp only [Incident.event?] at h
    unfold handle respond
    cases hpage : s.page? (RequestTarget.parse uri).path now with
    | some page =>
      simp only [hpage]
      split
      · exact .inl rfl
      · split
        · exact .inl rfl
        · split
          · exact .inr rfl
          · exact .inl rfl
    | none =>
      cases hrequest : request? (.parse uri) with
      | none => simp only [hpage, hrequest, true_or]
      | some parameters =>
        simp only [hpage, hrequest]
        by_cases hmethod : method = "POST"
        · rw [if_pos hmethod, hrequest] at h
          cases parameters with
          | none => simp only [hmethod, if_true, true_or]
          | some parameters => cases h
        · simp only [hmethod, if_false, true_or]

/-! ## Accounts -/

structure Ledger (succeeded failed : List CollectionKind) (s : Server) : Prop where
  accounts : s.profiler.Accounts (succeeded.count ·) (failed.count ·)
  total : s.outcomes.total = succeeded.length + failed.length
  failed : s.outcomes.failed = failed.length

variable {succeeded failed : List CollectionKind} {s : Server}

theorem count_concat (kinds : List CollectionKind) (j : CollectionKind) :
    ((kinds ++ [j]).count ·) = fun k => kinds.count k + if k = j then 1 else 0 := by
  funext k
  rw [List.count_append, List.count_singleton]
  by_cases hk : k = j
  · simp [hk]
  · simp [hk, Ne.symm hk]

theorem Ledger.complete_ok (h : s.Ledger succeeded failed) (event : Event) (sample : Sample) :
    (s.complete event (.ok sample)).1.Ledger (succeeded ++ [event.target.kind]) failed := by
  obtain ⟨m, hm, hbalanced⟩ := h.accounts.heartbeat event
  constructor
  · rw [profiler_complete, count_concat]
    exact Profiler.accounts_append hm hbalanced event _
  · rw [outcomes_complete_ok, List.length_append, List.length_singleton]
    simp only [Outcomes.succeeded, h.total]
    omega
  · rw [outcomes_complete_ok]
    exact h.failed

theorem Ledger.complete_error (h : s.Ledger succeeded failed) (event : Event)
    (e : ProfilerError) :
    (s.complete event (.error e)).1.Ledger succeeded (failed ++ [event.target.kind]) := by
  constructor
  · rw [profiler_complete, count_concat]
    exact h.accounts.recordFailure event.target.kind
  · rw [(s.complete_error event e).2.1, List.length_append, List.length_singleton]
    simp only [Outcomes.failedWith, h.total]
    omega
  · rw [(s.complete_error event e).2.1, List.length_append, List.length_singleton]
    simp only [Outcomes.failedWith, h.failed]

theorem Ledger.clearCustom (h : s.Ledger succeeded failed) :
    Ledger succeeded failed { s with profiler := s.profiler.clearCustom } where
  accounts := h.accounts.clearKinds (by decide)
  total := h.total
  failed := h.failed

theorem Ledger.serviceRegistered (h : s.Ledger succeeded failed) :
    Ledger succeeded failed { s with profiler := s.profiler.serviceRegistered } where
  accounts := h.accounts
  total := h.total
  failed := h.failed

theorem Ledger.advance (h : s.Ledger succeeded failed) : s.advance.Ledger succeeded failed where
  accounts := h.accounts
  total := h.total
  failed := h.failed

theorem ledger_idle (config : Config) (data : ReplayData) (startedAt : Timestamp) :
    (idle config data startedAt).Ledger [] [] where
  accounts := (Profiler.accounts_fresh config).clearKinds (by decide)
  total := rfl
  failed := rfl

theorem sum_count (kinds : List CollectionKind) :
    (CollectionKind.all.map (kinds.count ·)).sum = kinds.length := by
  induction kinds with
  | nil => rfl
  | cons kind kinds ih =>
    rw [List.length_cons, ← ih]
    cases kind <;> simp [CollectionKind.all, List.count_cons] <;> omega

theorem sum_ofNat (f : CollectionKind → Nat) :
    (CollectionKind.all.map fun k => UInt64.ofNat (f k)).sum =
      UInt64.ofNat (CollectionKind.all.map f).sum := by
  simp [CollectionKind.all, UInt64.ofNat_add]

/-- The metrics add up to the outcomes: as words, and as numbers unless there
were too many events for a word. -/
def AddsUp (s : Server) : Prop :=
  ∃ m, s.profiler.metrics = some m ∧
    (CollectionKind.all.map fun k => m.collections.reading k + m.failures.reading k).sum =
      UInt64.ofNat s.outcomes.total ∧
    (CollectionKind.all.map m.failures.reading).sum = UInt64.ofNat s.outcomes.failed ∧
    (s.outcomes.total < 2 ^ 64 →
      (CollectionKind.all.map fun k =>
        (m.collections.reading k).toNat + (m.failures.reading k).toNat).sum = s.outcomes.total ∧
      (CollectionKind.all.map fun k => (m.failures.reading k).toNat).sum = s.outcomes.failed)

theorem Ledger.addsUp (h : s.Ledger succeeded failed) : s.AddsUp := by
  obtain ⟨m, hm, hbalanced, -⟩ := h.accounts
  have hcollections := hbalanced.collections
  have hfailures := hbalanced.failures
  have hsum : (CollectionKind.all.map fun k => succeeded.count k + failed.count k).sum =
      s.outcomes.total := by
    rw [h.total, ← sum_count succeeded, ← sum_count failed]
    simp only [CollectionKind.all, List.map_cons, List.map_nil, List.sum_cons, List.sum_nil]
    omega
  have hfailed : (CollectionKind.all.map (failed.count ·)).sum = s.outcomes.failed := by
    rw [h.failed, sum_count]
  have hword : ∀ n ≤ s.outcomes.total, s.outcomes.total < 2 ^ 64 → (UInt64.ofNat n).toNat = n := by
    intro n hn hfits
    exact UInt64.toNat_ofNat_of_lt' (Nat.lt_of_le_of_lt hn hfits)
  have hsucceeded : ∀ k, succeeded.count k ≤ s.outcomes.total := by
    intro k
    have hle : succeeded.count k ≤ succeeded.length := List.count_le_length
    have htotal := h.total
    omega
  have hfewer : ∀ k, failed.count k ≤ s.outcomes.total := by
    intro k
    have hle : failed.count k ≤ failed.length := List.count_le_length
    have htotal := h.total
    omega
  refine ⟨m, hm, ?_, ?_, fun hfits => ⟨?_, ?_⟩⟩
  · simp only [hcollections, hfailures, ← UInt64.ofNat_add]
    rw [sum_ofNat, hsum]
  · have hreading : m.failures.reading = fun k => UInt64.ofNat (failed.count k) := funext hfailures
    rw [hreading, sum_ofNat, hfailed]
  · have hreading : ∀ k, (m.collections.reading k).toNat + (m.failures.reading k).toNat =
        succeeded.count k + failed.count k := by
      intro k
      rw [hcollections, hfailures, hword _ (hsucceeded k) hfits, hword _ (hfewer k) hfits]
    simp only [hreading]
    exact hsum
  · have hreading : ∀ k, (m.failures.reading k).toNat = failed.count k := by
      intro k
      rw [hfailures, hword _ (hfewer k) hfits]
    simp only [hreading]
    exact hfailed

/-! ## With samples, and without -/

/-- What holds after every event, and whenever custom records are cleared, holds after every run. -/
theorem run_induction {P : List Event → Server → Prop}
    (hevent : ∀ events s event, P events s → P (events ++ [event]) (s.advance.collect event).1)
    (hclear : ∀ events s, P events s → P events { s with profiler := s.profiler.clearCustom }) :
    ∀ (incidents : List Incident) {events : List Event} {s : Server}, P events s →
      P (events ++ incidents.filterMap (·.event?)) (s.run incidents).1
  | [], events, s, h => by
    rw [List.filterMap_nil, List.append_nil]
    exact h
  | incident :: rest, events, s, h => by
    have hrun : (s.run (incident :: rest)).1 = ((s.handle incident).1.run rest).1 := rfl
    rw [hrun]
    cases hincident : incident.event? with
    | some event =>
      have hnext : P (events ++ [event]) (s.handle incident).1 := by
        rw [handle_of_event hincident]
        exact hevent events s event h
      rw [List.filterMap_cons, hincident]
      simpa using run_induction hevent hclear rest hnext
    | none =>
      have hnext : P events (s.handle incident).1 := by
        rcases handle_of_no_event hincident s with hsame | hcleared
        · rw [hsame]
          exact h
        · rw [hcleared]
          exact hclear events s h
      rw [List.filterMap_cons, hincident]
      exact run_induction hevent hclear rest hnext

/-- A server that has never lacked a sample, and its events so far. -/
structure Fed (config : Config) (data : ReplayData) (events : List Event) (s : Server) : Prop where
  begun : 0 < events.length
  configured : s.profiler.config = config
  source : s.source =
    { samples := data.samples, position := (events.length - 1) % data.samples.length }
  ledger : s.Ledger (events.map (·.target.kind)) []
  lastSuccess : s.outcomes.lastSuccess = events.getLast?.map (·.time)
  lastError : s.outcomes.lastError = none

variable {config : Config} {data : ReplayData} {events : List Event}

theorem Fed.source_advance (h : s.Fed config data events) (hsamples : data.samples ≠ []) :
    s.advance.source =
      { samples := data.samples, position := events.length % data.samples.length } := by
  have hlength : events.length - 1 + 1 = events.length := Nat.sub_add_cancel h.begun
  have hadvance : s.advance.source = s.source.advance := rfl
  rw [hadvance, h.source, ReplaySource.advance, if_neg (by simpa using hsamples), ReplaySource.size,
    Nat.mod_add_mod, hlength]

/-- The next event takes the next sample, or the first again behind the last. -/
theorem Fed.exists_sample (h : s.Fed config data events) (hsamples : data.samples ≠ []) :
    ∃ sample, data.samples[events.length % data.samples.length]? = some sample ∧
      s.advance.source.sample = .ok sample := by
  have hlt : events.length % data.samples.length < data.samples.length :=
    Nat.mod_lt _ (List.length_pos_iff.mpr hsamples)
  refine ⟨_, List.getElem?_eq_getElem hlt, ReplaySource.sample_eq_ok ?_⟩
  rw [h.source_advance hsamples]
  exact List.getElem?_eq_getElem hlt

theorem Fed.collect (h : s.Fed config data events) (hsamples : data.samples ≠ []) (event : Event) :
    (s.advance.collect event).1.Fed config data (events ++ [event]) := by
  obtain ⟨sample, -, hsample⟩ := h.exists_sample hsamples
  unfold Server.collect
  rw [hsample]
  constructor
  · simp
  · rw [config_complete]
    exact h.configured
  · rw [source_complete, h.source_advance hsamples]
    simp
  · rw [List.map_append]
    exact h.ledger.advance.complete_ok event sample
  · rw [outcomes_complete_ok, List.getLast?_concat]
    rfl
  · rw [outcomes_complete_ok]
    rfl

theorem Fed.clearCustom (h : s.Fed config data events) :
    Fed config data events { s with profiler := s.profiler.clearCustom } where
  begun := h.begun
  configured := h.configured
  source := h.source
  ledger := h.ledger.clearCustom
  lastSuccess := h.lastSuccess
  lastError := h.lastError

theorem fed_booted (config : Config) (startedAt : Timestamp) (hsamples : data.samples ≠ []) :
    (booted config data startedAt).Fed config data [⟨.bootTime, startedAt, .normal⟩] := by
  obtain ⟨first, rest, hfirst⟩ := List.exists_cons_of_ne_nil hsamples
  have hsample : (idle config data startedAt).source.sample = .ok first := by
    refine ReplaySource.sample_eq_ok ?_
    simp [idle, ReplaySource.ofData, hfirst]
  have hledger := (ledger_idle config data startedAt).complete_ok ⟨.bootTime, startedAt, .normal⟩ first
  constructor
  · exact Nat.one_pos
  · exact config_booted
  · rw [source_booted]
    simp [ReplaySource.ofData]
  · unfold booted Server.collect
    rw [hsample]
    exact hledger.serviceRegistered
  · unfold booted Server.collect
    rw [hsample]
    rfl
  · unfold booted Server.collect
    rw [hsample]
    rfl

structure Starved (events : List Event) (s : Server) : Prop where
  source : s.source.samples = []
  ledger : s.Ledger [] (events.map (·.target.kind))
  empty : ∀ k, s.profiler.recordCount k = 0
  lastSuccess : s.outcomes.lastSuccess = none
  lastError : s.outcomes.lastError ≠ none

def noSample : ProfilerError := .source .packages .empty

theorem Starved.sample_advance (h : s.Starved events) :
    s.advance.source.sample = .error noSample := by
  refine ReplaySource.sample_eq_error ?_
  exact (ReplaySource.samples_advance s.source).trans h.source

theorem Starved.collect (h : s.Starved events) (event : Event) :
    (s.advance.collect event).1.Starved (events ++ [event]) := by
  obtain ⟨-, houtcomes, hcaches⟩ := s.advance.complete_error event noSample
  unfold Server.collect
  rw [h.sample_advance]
  constructor
  · rw [source_complete]
    exact (ReplaySource.samples_advance s.source).trans h.source
  · rw [List.map_append]
    exact h.ledger.advance.complete_error event noSample
  · intro k
    rw [Profiler.recordCount, hcaches]
    exact h.empty k
  · rw [houtcomes]
    exact h.lastSuccess
  · rw [houtcomes]
    exact Option.some_ne_none _

theorem Starved.clearCustom (h : s.Starved events) :
    Starved events { s with profiler := s.profiler.clearCustom } where
  source := h.source
  ledger := h.ledger.clearCustom
  empty k := by
    have hcleared := s.profiler.recordCount_clearKinds [.custom] k
    have hempty : s.profiler.caches.recordCount k = 0 := h.empty k
    rw [hempty, ite_self] at hcleared
    exact hcleared
  lastSuccess := h.lastSuccess
  lastError := h.lastError

theorem starved_booted (config : Config) (startedAt : Timestamp) (hsamples : data.samples = []) :
    (booted config data startedAt).Starved [⟨.bootTime, startedAt, .normal⟩] := by
  have hsample : (idle config data startedAt).source.sample = .error noSample :=
    ReplaySource.sample_eq_error hsamples
  have hledger := (ledger_idle config data startedAt).complete_error
    ⟨.bootTime, startedAt, .normal⟩ noSample
  constructor
  · rw [source_booted]
    exact hsamples
  · unfold booted Server.collect
    rw [hsample]
    exact hledger.serviceRegistered
  · intro k
    unfold booted Server.collect
    rw [hsample]
    cases k <;> rfl
  · unfold booted Server.collect
    rw [hsample]
    rfl
  · unfold booted Server.collect
    rw [hsample]
    exact Option.some_ne_none _

/-! ## Runs from startup -/

theorem fed_run (config : Config) (startedAt : Timestamp) (hsamples : data.samples ≠ [])
    (incidents : List Incident) :
    ((booted config data startedAt).run incidents).1.Fed config data
      (⟨.bootTime, startedAt, .normal⟩ :: incidents.filterMap (·.event?)) := by
  have hbooted := fed_booted config startedAt hsamples
  exact run_induction (fun _ _ event h => h.collect hsamples event) (fun _ _ h => h.clearCustom)
    incidents hbooted

theorem starved_run (config : Config) (startedAt : Timestamp) (hsamples : data.samples = [])
    (incidents : List Incident) :
    ((booted config data startedAt).run incidents).1.Starved
      (⟨.bootTime, startedAt, .normal⟩ :: incidents.filterMap (·.event?)) := by
  have hbooted := starved_booted config startedAt hsamples
  exact run_induction (fun _ _ event h => h.collect event) (fun _ _ h => h.clearCustom)
    incidents hbooted

theorem ledger_run (config : Config) (data : ReplayData) (startedAt : Timestamp)
    (incidents : List Incident) :
    ∃ succeeded failed, ((booted config data startedAt).run incidents).1.Ledger succeeded failed ∧
      succeeded.length + failed.length = (incidents.filterMap (·.event?)).length + 1 := by
  by_cases hsamples : data.samples = []
  · exact ⟨_, _, (starved_run config startedAt hsamples incidents).ledger, by simp⟩
  · exact ⟨_, _, (fed_run config startedAt hsamples incidents).ledger, by simp⟩

theorem previous?_booted (config : Config) (startedAt : Timestamp) {sample : Sample}
    (hhead : data.samples.head? = some sample) :
    (booted config data startedAt).profiler.caches.previous? .bootTime =
      some (.compute startedAt sample config.bounds {} none) := by
  have hsample : (idle config data startedAt).source.sample = .ok sample :=
    ReplaySource.sample_eq_ok (List.head?_eq_getElem? ▸ hhead)
  obtain ⟨collected, -, hrecord, hnewest⟩ := (idle config data startedAt).complete_ok
    ⟨.bootTime, startedAt, .normal⟩ sample
  unfold booted Server.collect
  rw [hsample]
  exact hnewest.trans (congrArg some hrecord)

/-! ## Health -/

theorem respond_health (s : Server) (now : Timestamp) :
    (s.respond "GET" "/health" now).2 = s.health now := by
  have hpath : (RequestTarget.parse "/health").path = "/health" := by decide
  have hpage : s.page? (RequestTarget.parse "/health").path now = some (s.health now) := by
    rw [hpath]
    rfl
  rw [respond_page hpage]

theorem status_health {text : String} (h : Health.lastSuccessText? s.outcomes.lastSuccess = some text)
    (now : Timestamp) :
    (s.respond "GET" "/health" now).2.status = if s.outcomes.isHealthy then 200 else 503 := by
  rw [respond_health]
  unfold health Health.table?
  simp only [h, Option.bind_eq_bind, Option.bind_some]
  rfl

theorem Fed.status_health (h : s.Fed config data events) {last : Event}
    (hlast : events.getLast? = some last) (hdate : last.time.InCalendar) (now : Timestamp) :
    (s.respond "GET" "/health" now).2.status = 200 := by
  have hsuccess : s.outcomes.lastSuccess = some last.time := by
    rw [h.lastSuccess, hlast]
    rfl
  obtain ⟨date, hcivil⟩ : ∃ date, last.time.civil? = some date := ⟨_, if_pos hdate⟩
  have htext : Health.lastSuccessText? s.outcomes.lastSuccess = some date.isoText := by
    rw [hsuccess, Health.lastSuccessText?, hcivil, Option.map_some]
  have hhealthy : s.outcomes.isHealthy = true := by
    rw [Outcomes.isHealthy, hsuccess, h.lastError]
    rfl
  rw [Server.status_health htext, if_pos hhealthy]

theorem Starved.status_health (h : s.Starved events) (now : Timestamp) :
    (s.respond "GET" "/health" now).2.status = 503 := by
  have htext : Health.lastSuccessText? s.outcomes.lastSuccess = some "never" := by
    rw [h.lastSuccess]
    rfl
  have hsick : s.outcomes.isHealthy = false := by
    rw [Outcomes.isHealthy, h.lastSuccess]
    rfl
  rw [Server.status_health htext, hsick]
  rfl

end Server

/-! ## Any sequence -/

/-- What is done with the next event if there are samples: it is given the record of one of them. -/
def Server.Serves (config : Config) (s : Server) (sample : Sample) : Prop :=
  ∀ (incident : Incident) (event : Event), incident.event? = some event →
    (s.handle incident).2 = incident.answer? (.plain 200 "Collection recorded\n") ∧
      (s.handle incident).1.profiler.caches.previous? event.target =
        some (.compute event.time sample config.bounds event.target.filter
          (s.profiler.caches.previous? event.target))

theorem Server.Fed.serves {config : Config} {data : ReplayData} {events : List Event} {s : Server}
    (h : s.Fed config data events) (hsamples : data.samples ≠ []) :
    ∃ sample, data.samples[events.length % data.samples.length]? = some sample ∧
      s.Serves config sample := by
  obtain ⟨sample, hget, hsample⟩ := h.exists_sample hsamples
  refine ⟨sample, hget, fun incident event hevent => ?_⟩
  obtain ⟨collected, hresult, hrecord, hnewest⟩ := s.advance.complete_ok event sample
  have hconfig : s.advance.profiler.config = config := h.configured
  rw [Server.handle_of_event hevent, Server.collect, hsample, hresult, hnewest, hrecord, hconfig]
  exact ⟨rfl, rfl⟩

/-- **Accounting.** With a valid configuration a server starts up, whatever its
samples, and then whatever may reach it: its outcomes count the events, the one
at startup included, and the metrics add up to the outcomes. What is not an
event leaves the source and the outcomes alone. With samples no event fails, the
server is healthy as long as the time of its newest event has a date, and the
next event is served the next sample. Without samples every event fails. -/
theorem server_accounts (config : Config) (hvalid : config.validate = .ok ()) (data : ReplayData)
    (startedAt : Timestamp) :
    ∃ started, Server.start config (.ok data) startedAt = .ok started ∧
      (∀ sample, data.samples.head? = some sample →
        started.profiler.caches.previous? .bootTime =
          some (.compute startedAt sample config.bounds {} none)) ∧
      ∀ incidents : List Incident,
        let s := (started.run incidents).1
        let events := ⟨.bootTime, startedAt, .normal⟩ :: incidents.filterMap (·.event?)
        s.outcomes.total = events.length ∧ s.AddsUp ∧
        (∀ incident : Incident, incident.event? = none →
          (s.handle incident).1.source = s.source ∧ (s.handle incident).1.outcomes = s.outcomes) ∧
        (data.samples ≠ [] →
          s.outcomes.failed = 0 ∧
          (∀ last now, events.getLast? = some last → last.time.InCalendar →
            (s.respond "GET" "/health" now).2.status = 200) ∧
          ∃ sample, data.samples[events.length % data.samples.length]? = some sample ∧
            s.Serves config sample) ∧
        (data.samples = [] →
          s.outcomes.failed = events.length ∧
          (∀ k, s.profiler.recordCount k = 0) ∧
          (∀ now, (s.respond "GET" "/health" now).2.status = 503) ∧
          ∀ (incident : Incident) (event : Event), incident.event? = some event →
            (s.handle incident).2 = incident.answer?
              (.plain 503 ("Collection failed: " ++ Server.noSample.message ++ "\n"))) := by
  refine ⟨Server.booted config data startedAt, Server.start_eq_ok.mpr ⟨hvalid, rfl⟩,
    fun sample hhead => Server.previous?_booted config startedAt hhead, fun incidents => ?_⟩
  intro s events
  obtain ⟨succeeded, failed, hledger, hlength⟩ := Server.ledger_run config data startedAt incidents
  refine ⟨hledger.total.trans hlength, hledger.addsUp, ?_, ?_, ?_⟩
  · intro incident hincident
    rcases Server.handle_of_no_event hincident s with hsame | hcleared
    · rw [hsame]
      exact ⟨rfl, rfl⟩
    · rw [hcleared]
      exact ⟨rfl, rfl⟩
  · intro hsamples
    have h := Server.fed_run config startedAt hsamples incidents
    exact ⟨h.ledger.failed, fun last now hlast hdate => h.status_health hlast hdate now,
      h.serves hsamples⟩
  · intro hsamples
    have h := Server.starved_run config startedAt hsamples incidents
    refine ⟨?_, h.empty, h.status_health, fun incident event hevent => ?_⟩
    · rw [h.ledger.failed, List.length_map]
    · rw [Server.handle_of_event hevent, Server.collect, h.sample_advance]
      rfl

/-- The sixth event of a server with two samples takes the second of them again,
after a regular one and one of each kind that can be asked for; the server without
samples has failed five times. -/
theorem server_accounts_wraps :
    let sample (faults : Counter) : Sample :=
      { packages := [{ uid := 1000, cpuTime := 5, group := { majorFaults := faults } }] }
    let incidents : List Incident :=
      [.tick .epoch, .request "POST" "/collect/wake-up" .epoch,
       .request "POST" "/collect/user-switch?from=0&to=10" .epoch, .request "GET" "/dump" .epoch,
       .request "POST" "/collect/custom?packages=mount&state=garage" .epoch,
       .request "POST" "/collect/user-switch?from=0" .epoch,
       .request "DELETE" "/dump/custom" .epoch]
    ({} : Config).validate = .ok () ∧
      incidents.filterMap (·.event?) =
        [⟨.periodic, .epoch, .normal⟩, ⟨.wakeUp, .epoch, .normal⟩, ⟨.userSwitch 0 10, .epoch, .normal⟩,
         ⟨.custom (.parse "mount"), .epoch, .garage⟩] ∧
      (∃ started, Server.start {} (.ok ⟨"1", "", [sample 10, sample 15]⟩) .epoch = .ok started ∧
        let s := (started.run incidents).1
        s.outcomes.total = 5 ∧ s.outcomes.failed = 0 ∧ s.Serves {} (sample 15) ∧
          (s.respond "GET" "/health" .epoch).2.status = 200) ∧
      ∃ started, Server.start {} (.ok ⟨"1", "", []⟩) .epoch = .ok started ∧
        let s := (started.run incidents).1
        s.outcomes.total = 5 ∧ s.outcomes.failed = 5 ∧ s.profiler.recordCount .periodic = 0 ∧
          (s.respond "GET" "/health" .epoch).2.status = 503 := by
  intro sample incidents
  have hvalid : ({} : Config).validate = .ok () := by rfl
  have hevents : incidents.filterMap (·.event?) =
      [⟨.periodic, .epoch, .normal⟩, ⟨.wakeUp, .epoch, .normal⟩, ⟨.userSwitch 0 10, .epoch, .normal⟩,
       ⟨.custom (.parse "mount"), .epoch, .garage⟩] := by decide +kernel
  refine ⟨hvalid, hevents, ?_, ?_⟩
  · obtain ⟨started, hstart, -, hrun⟩ :=
      server_accounts {} hvalid ⟨"1", "", [sample 10, sample 15]⟩ .epoch
    obtain ⟨htotal, -, -, hserved, -⟩ := hrun incidents
    obtain ⟨hfailed, hhealth, next, hnext, hserves⟩ := hserved (by simp)
    rw [hevents] at htotal hhealth hnext
    have hsecond : sample 15 = next := by simpa using hnext
    subst hsecond
    exact ⟨started, hstart, htotal, hfailed, hserves, hhealth _ .epoch rfl (by decide)⟩
  · obtain ⟨started, hstart, -, hrun⟩ := server_accounts {} hvalid ⟨"1", "", []⟩ .epoch
    obtain ⟨htotal, -, -, -, hstarved⟩ := hrun incidents
    obtain ⟨hfailed, hempty, hhealth, -⟩ := hstarved rfl
    rw [hevents] at htotal hfailed
    exact ⟨started, hstart, htotal, hfailed, hempty .periodic, hhealth .epoch⟩

end UsageWatch
