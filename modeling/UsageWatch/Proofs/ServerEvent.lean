import UsageWatch.Proofs.CacheInput
import UsageWatch.Server
/-!
# Events of a server

What one event does to a server. Its last step leaves the source alone, and
adds a record exactly if both halves of a sample could be read. A server that
has started up is in a state that is known (`start_eq_ok`).
-/

namespace UsageWatch.Server

variable {config : Config} {data : ReplayData} {now : Timestamp} {s : Server}

/-! ## The last step -/

theorem profiler_complete (s : Server) (event : Event) (sampled : Except ProfilerError Sample) :
    (s.complete event sampled).1.profiler = (s.profiler.collect event sampled).1 := by
  cases sampled <;> rfl

@[simp] theorem source_complete (s : Server) (event : Event) (sampled : Except ProfilerError Sample) :
    (s.complete event sampled).1.source = s.source := by
  cases sampled <;> rfl

@[simp] theorem config_complete (s : Server) (event : Event) (sampled : Except ProfilerError Sample) :
    (s.complete event sampled).1.profiler.config = s.profiler.config := by
  rw [profiler_complete, Profiler.config_collect]

/-- The record of an event, which follows the newest one of its target. -/
theorem complete_ok (s : Server) (event : Event) (sample : Sample) :
    ∃ collected, (s.complete event (.ok sample)).2 = .ok collected ∧
      collected.record = .compute event.time sample s.profiler.config.bounds event.target.filter
        (s.profiler.caches.previous? event.target) ∧
      (s.complete event (.ok sample)).1.profiler.caches.previous? event.target =
        some collected.record := by
  obtain ⟨collected, hresult, hnewest⟩ := s.profiler.collect_eq_ok event sample
  refine ⟨collected, hresult, ?_, ?_⟩
  · rw [Profiler.caches_collect, Caches.previous?_collect] at hnewest
    exact (Option.some.inj hnewest).symm
  · rw [profiler_complete]
    exact hnewest

theorem outcomes_complete_ok (s : Server) (event : Event) (sample : Sample) :
    (s.complete event (.ok sample)).1.outcomes = s.outcomes.succeeded event.time := rfl

theorem complete_error (s : Server) (event : Event) (e : ProfilerError) :
    (s.complete event (.error e)).2 = .error e ∧
      (s.complete event (.error e)).1.outcomes = s.outcomes.failedWith e.message ∧
      (s.complete event (.error e)).1.profiler.caches = s.profiler.caches := ⟨rfl, rfl, rfl⟩

/-! ## Startup -/

/-- What a server starts up from. -/
def idle (config : Config) (data : ReplayData) (now : Timestamp) : Server where
  profiler := (Profiler.fresh config true).systemStartup
  source := .ofData data
  startedAt := now

def booted (config : Config) (data : ReplayData) (now : Timestamp) : Server :=
  let s := ((idle config data now).collect ⟨.bootTime, now, .normal⟩).1
  { s with profiler := s.profiler.serviceRegistered }

theorem start_eq_ok :
    start config (.ok data) now = .ok s ↔ config.validate = .ok () ∧ s = booted config data now := by
  unfold start Profiler.createRegistered Profiler.create
  cases config.validate with
  | error e => simp [bind, Except.bind]
  | ok u => simp [bind, Except.bind, pure, Except.pure, eq_comm, booted, idle, Profiler.fresh]

@[simp] theorem source_booted : (booted config data now).source = .ofData data :=
  source_complete _ _ _

@[simp] theorem config_booted : (booted config data now).profiler.config = config :=
  config_complete _ _ _

end UsageWatch.Server
