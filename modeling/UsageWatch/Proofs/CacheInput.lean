import UsageWatch.Profiler.Run
import UsageWatch.Proofs.SessionStore
/-!
# What reaches a cache

A run of a profiler changes its caches by five kinds of operation only. Seen
from one cache, such an operation adds a record, sweeps, or clears, and most of
a run does not reach it. The cache is a fold over what does (`get_after`), so
whatever holds of a cache can be proved of one cache alone.
-/

namespace UsageWatch

/-! ## Fresh profilers -/

def Profiler.fresh (config : Config) (metered : Bool) : Profiler where
  config
  caches := .ofConfig config
  metrics := if metered then some {} else none

theorem Profiler.create_eq_ok {config : Config} {p : Profiler} :
    create config = .ok p ↔ config.validate = .ok () ∧ p = fresh config false := by
  unfold create
  cases config.validate with
  | error e => simp [bind, Except.bind]
  | ok u => simp [bind, Except.bind, pure, Except.pure, fresh, eq_comm]

theorem Profiler.createRegistered_eq_ok {config : Config} {registry registry' : Registry}
    {p : Profiler} :
    createRegistered config registry = .ok (p, registry') ↔
      config.validate = .ok () ∧ metricsName ∉ registry ∧
        p = fresh config true ∧ registry' = metricsName :: registry := by
  unfold createRegistered create
  cases config.validate with
  | error e => simp [bind, Except.bind]
  | ok u =>
    by_cases h : metricsName ∈ registry
    · simp [bind, Except.bind, pure, Except.pure, h]
    · simp [bind, Except.bind, pure, Except.pure, fresh, eq_comm, h]

def ProfilerRun.after (config : Config) (metered : Bool) (operations : List Operation) :
    ProfilerRun :=
  (ProfilerRun.run { profiler := .fresh config metered } operations).1

/-! ## The caches under an operation -/

namespace Caches

def heartbeat (c : Caches) (event : Event) : Caches :=
  match event.target with
  | .periodic => c.sweep event.time
  | _ => c

def collect (bounds : Bounds) (c : Caches) (event : Event) (sample : Sample) : Caches :=
  (c.heartbeat event).append event.target
    (.compute event.time sample bounds event.target.filter
      ((c.heartbeat event).previous? event.target))
    event.time

/-- No event ages out the records of its own target. -/
theorem previous?_heartbeat (c : Caches) (event : Event) :
    (c.heartbeat event).previous? event.target = c.previous? event.target := by
  obtain ⟨target, time, state⟩ := event
  cases target <;> rfl

@[simp] theorem previous?_append (c : Caches) (target : Target) (r : Record) (now : Timestamp) :
    (c.append target r now).previous? target = some r := by
  cases target with
  | userSwitch origin target => exact SessionStore.previous?_append _ _ _ _ _
  | _ => exact Collection.last?_append _ _ _

theorem previous?_collect (bounds : Bounds) (c : Caches) (event : Event) (sample : Sample) :
    (c.collect bounds event sample).previous? event.target =
      some (.compute event.time sample bounds event.target.filter (c.previous? event.target)) := by
  rw [collect, previous?_append, previous?_heartbeat]

def perform (bounds : Bounds) (c : Caches) : Operation → Caches
  | .collect event (.ok sample) _ => c.collect bounds event sample
  | .systemStartup => (c.clear .bootTime).clear .wakeUp
  | .terminate => CollectionKind.all.foldl clear c
  | .clearCustom => c.clear .custom
  | _ => c

end Caches

theorem Profiler.caches_collect (p : Profiler) (event : Event) (sample : Sample) :
    (p.collect event (.ok sample)).1.caches = p.caches.collect p.config.bounds event sample := by
  obtain ⟨target, time, state⟩ := event
  cases target <;> rfl

/-- An event whose sources answer succeeds, with the record that it added. -/
theorem Profiler.collect_eq_ok (p : Profiler) (event : Event) (sample : Sample) :
    ∃ collected, (p.collect event (.ok sample)).2 = .ok collected ∧
      (p.collect event (.ok sample)).1.caches.previous? event.target = some collected.record := by
  refine ⟨_, rfl, ?_⟩
  exact Caches.previous?_append (p.heartbeat event).caches event.target _ event.time

theorem Profiler.config_collect (p : Profiler) (event : Event)
    (sampled : Except ProfilerError Sample) : (p.collect event sampled).1.config = p.config := by
  obtain ⟨target, time, state⟩ := event
  cases sampled <;> cases target <;> rfl

namespace ProfilerRun

theorem config_perform (r : ProfilerRun) (operation : Operation) :
    (r.perform operation).1.profiler.config = r.profiler.config := by
  cases operation with
  | collect event sampled keepsUsage => exact Profiler.config_collect _ _ _
  | _ => rfl

theorem caches_perform (r : ProfilerRun) (operation : Operation) :
    (r.perform operation).1.profiler.caches =
      r.profiler.caches.perform r.profiler.config.bounds operation := by
  cases operation with
  | collect event sampled keepsUsage =>
    cases sampled with
    | error e => rfl
    | ok sample => exact Profiler.caches_collect _ _ _
  | _ => rfl

theorem run_append (first rest : List Operation) (r : ProfilerRun) :
    (r.run (first ++ rest)).1 = ((r.run first).1.run rest).1 := by
  induction first generalizing r with
  | nil => rfl
  | cons operation first ih => exact ih _

theorem after_concat (config : Config) (metered : Bool) (operations : List Operation)
    (operation : Operation) :
    after config metered (operations ++ [operation]) =
      ((after config metered operations).perform operation).1 :=
  run_append operations [operation] _

theorem run_cons (r : ProfilerRun) (operation : Operation) (rest : List Operation) :
    (r.run (operation :: rest)).1 = ((r.perform operation).1.run rest).1 := rfl

theorem caches_run : ∀ (operations : List Operation) (r : ProfilerRun),
    (r.run operations).1.profiler.caches =
      operations.foldl (Caches.perform r.profiler.config.bounds) r.profiler.caches
  | [], _ => rfl
  | operation :: rest, r => by
    rw [run_cons, caches_run rest, config_perform, caches_perform, List.foldl_cons]

theorem caches_after (config : Config) (metered : Bool) (operations : List Operation) :
    (after config metered operations).profiler.caches =
      operations.foldl (Caches.perform config.bounds) (.ofConfig config) :=
  caches_run operations _

end ProfilerRun

/-! ## Seen from one cache -/

inductive CacheInput where
  | collected (target : Target) (time : Timestamp) (sample : Sample)
  | swept (now : Timestamp)
  | cleared

/-- What an operation is to the cache of a kind, if it reaches it. -/
def Operation.inputFor (k : CollectionKind) : Operation → Option CacheInput
  | .collect event (.ok sample) _ =>
    if event.target.kind = k then some (.collected event.target event.time sample)
    else if event.target.kind = .periodic ∧ k ∈ [.bootTime, .wakeUp, .userSwitch] then
      some (.swept event.time)
    else none
  | .systemStartup => if k ∈ [.bootTime, .wakeUp] then some .cleared else none
  | .terminate => some .cleared
  | .clearCustom => if k = .custom then some .cleared else none
  | _ => none

abbrev CollectionKind.Cache : CollectionKind → Type
  | .userSwitch => SessionStore
  | .bootTime | .wakeUp | .periodic | .custom => Collection

def Caches.get (c : Caches) : (k : CollectionKind) → k.Cache
  | .bootTime => c.bootTime
  | .wakeUp => c.wakeUp
  | .userSwitch => c.userSwitch
  | .periodic => c.periodic
  | .custom => c.custom

def Collection.receive (bounds : Bounds) (c : Collection) : CacheInput → Collection
  | .collected target time sample =>
    c.append (.compute time sample bounds target.filter c.last?) time
  | .swept now => c.sweep now
  | .cleared => c.clear

def SessionStore.receive (bounds : Bounds) (s : SessionStore) : CacheInput → SessionStore
  | .collected (.userSwitch origin target) time sample =>
    s.append origin target
      (.compute time sample bounds {} (s.previous? origin target)) time
  | .collected _ _ _ => s
  | .swept now => s.sweep now
  | .cleared => s.clear

def CollectionKind.receive (bounds : Bounds) : (k : CollectionKind) → k.Cache → CacheInput → k.Cache
  | .userSwitch => SessionStore.receive bounds
  | .bootTime => Collection.receive bounds
  | .wakeUp => Collection.receive bounds
  | .periodic => Collection.receive bounds
  | .custom => Collection.receive bounds

theorem Caches.get_perform (bounds : Bounds) (c : Caches) (k : CollectionKind)
    (operation : Operation) :
    (c.perform bounds operation).get k =
      (operation.inputFor k).elim (c.get k) (k.receive bounds (c.get k)) := by
  cases operation with
  | collect event sampled keepsUsage =>
    obtain ⟨target, time, state⟩ := event
    cases sampled with
    | error e => rfl
    | ok sample => cases target <;> cases k <;> rfl
  | _ => cases k <;> rfl

theorem Caches.get_foldl_perform (bounds : Bounds) (k : CollectionKind) :
    ∀ (operations : List Operation) (c : Caches),
      (operations.foldl (perform bounds) c).get k =
        (operations.filterMap (·.inputFor k)).foldl (k.receive bounds) (c.get k)
  | [], _ => rfl
  | operation :: rest, c => by
    rw [List.foldl_cons, get_foldl_perform bounds k rest, get_perform, List.filterMap_cons]
    cases operation.inputFor k <;> rfl

/-- The cache of a kind is what the operations that reach it make of an empty one. -/
theorem ProfilerRun.get_after (config : Config) (metered : Bool) (operations : List Operation)
    (k : CollectionKind) :
    (after config metered operations).profiler.caches.get k =
      (operations.filterMap (·.inputFor k)).foldl (k.receive config.bounds)
        ((Caches.ofConfig config).get k) := by
  rw [caches_after, Caches.get_foldl_perform]

/-- What holds of an empty cache and is kept by all that reaches it holds after every run. -/
theorem ProfilerRun.get_after_induction (config : Config) (metered : Bool)
    (operations : List Operation) (k : CollectionKind) {P : k.Cache → Prop}
    (hempty : P ((Caches.ofConfig config).get k))
    (hreceive : ∀ cache input, P cache → P (k.receive config.bounds cache input)) :
    P ((after config metered operations).profiler.caches.get k) := by
  rw [get_after]
  exact List.foldlRecOn _ (k.receive config.bounds) hempty
    fun cache hcache input _ => hreceive cache input hcache

end UsageWatch
