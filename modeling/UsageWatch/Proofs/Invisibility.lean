import UsageWatch.Profiler.Shared
import UsageWatch.Proofs.Telemetry
/-!
# Failures, dumps and look-ups are invisible

An event whose sources fail, a dump and a look-up change nothing but the count
of failures, whether they succeed, meet a sink that refuses, or break off under
the lock. Without them a run leaves the same caches, gives the same replies to
all other calls and shows the same metrics but for that count
(`failures_invisible`).
-/

namespace UsageWatch

/-! ## A failure may be counted before or after anything else -/

namespace Metrics

theorem recordFailure_comm (m : Metrics) (j k : CollectionKind) :
    (m.recordFailure j).recordFailure k = (m.recordFailure k).recordFailure j := by
  cases j <;> cases k <;> rfl

theorem recordEvictions_recordFailure (m : Metrics) (j k : CollectionKind) (n : Nat) :
    (m.recordFailure k).recordEvictions j n = (m.recordEvictions j n).recordFailure k := by
  unfold recordEvictions
  split <;> rfl

theorem recordAll_recordFailure (k : CollectionKind) (gone : CollectionKind → Nat) :
    ∀ (kinds : List CollectionKind) (m : Metrics),
      (m.recordFailure k).recordAll kinds gone = (m.recordAll kinds gone).recordFailure k
  | [], _ => rfl
  | j :: kinds, m => by
    simp only [recordAll_cons, recordEvictions_recordFailure, recordAll_recordFailure k gone kinds]

theorem recordCollection_recordFailure (m : Metrics) (j k : CollectionKind) (r : Record) :
    (m.recordFailure k).recordCollection j r = (m.recordCollection j r).recordFailure k := rfl

theorem publish_recordFailure (m : Metrics) (c : Caches) (k : CollectionKind) :
    c.publish (m.recordFailure k) = (c.publish m).recordFailure k := rfl

theorem map_recordFailure (f : Metrics → Metrics) {k : CollectionKind}
    (hf : ∀ m, f (m.recordFailure k) = (f m).recordFailure k) (metrics : Option Metrics) :
    (metrics.map (·.recordFailure k)).map f = (metrics.map f).map (·.recordFailure k) := by
  cases metrics <;> simp [hf]

end Metrics

namespace Profiler

theorem recordFailure_comm (p : Profiler) (j k : CollectionKind) :
    (p.recordFailure j).recordFailure k = (p.recordFailure k).recordFailure j :=
  congrArg (fun metrics => { p with metrics })
    (Metrics.map_recordFailure (·.recordFailure k) (fun m => m.recordFailure_comm j k) p.metrics)

theorem clearKinds_recordFailure (p : Profiler) (k : CollectionKind) (kinds : List CollectionKind) :
    (p.recordFailure k).clearKinds kinds = (p.clearKinds kinds).recordFailure k := by
  let caches := kinds.foldl Caches.clear p.caches
  let f (m : Metrics) := caches.publish (m.recordAll kinds p.recordCount)
  have hf (m : Metrics) : f (m.recordFailure k) = (f m).recordFailure k := by
    simp only [f, Metrics.recordAll_recordFailure, Metrics.publish_recordFailure]
  exact congrArg (fun metrics => { p with caches, metrics }) (Metrics.map_recordFailure f hf p.metrics)

theorem heartbeat_recordFailure (p : Profiler) (k : CollectionKind) (event : Event) :
    (p.recordFailure k).heartbeat event = (p.heartbeat event).recordFailure k := by
  unfold heartbeat
  cases event.target with
  | periodic =>
    let caches := p.caches.sweep event.time
    let f (m : Metrics) := m.recordAll CollectionKind.all (p.caches.expired event.time)
    have hf (m : Metrics) : f (m.recordFailure k) = (f m).recordFailure k :=
      m.recordAll_recordFailure k ..
    exact congrArg (fun metrics => { p with caches, metrics })
      (Metrics.map_recordFailure f hf p.metrics)
  | _ => rfl

theorem append_recordFailure (p : Profiler) (k : CollectionKind) (event : Event) (r : Record) :
    (p.recordFailure k).append event r = (p.append event r).recordFailure k := by
  let caches := p.caches.append event.target r event.time
  let f (m : Metrics) := caches.publish ((m.recordCollection event.target.kind r).recordEvictions
    event.target.kind (p.caches.displaced event.target event.time))
  have hf (m : Metrics) : f (m.recordFailure k) = (f m).recordFailure k := by
    simp only [f, Metrics.recordCollection_recordFailure, Metrics.recordEvictions_recordFailure,
      Metrics.publish_recordFailure]
  exact congrArg (fun metrics => { p with caches, metrics }) (Metrics.map_recordFailure f hf p.metrics)

theorem collect_recordFailure (p : Profiler) (k : CollectionKind) (event : Event)
    (sampled : Except ProfilerError Sample) :
    (p.recordFailure k).collect event sampled =
      ((p.collect event sampled).1.recordFailure k, (p.collect event sampled).2) := by
  cases sampled with
  | error e => simp only [collect, p.recordFailure_comm k event.target.kind]
  | ok sample =>
    simp only [collect, heartbeat_recordFailure, append_recordFailure]
    rfl

end Profiler

/-! ## Calls that can be left out -/

/-- A call that may leave more than a count of failures. -/
def Call.visible : Call → Bool
  | .operation (.collect _ (.error _) _) => false
  | .operation (.dump _) | .operation (.dumpCustom _) => false
  | .operation (.dumpMessage _) | .operation (.appendMessage _ _) => false
  | .lookup _ => false
  | _ => true

def Call.failed? : Call → Option CollectionKind
  | .operation (.collect event (.error _) _) => some event.target.kind
  | _ => none

theorem Call.failed?_of_visible {call : Call} (h : call.visible = true) : call.failed? = none := by
  cases hk : call.failed? with
  | none => rfl
  | some k =>
    unfold failed? at hk
    split at hk
    · simp [visible] at h
    · cases hk

def visibleReplies (calls : List Call) (replies : List Reply) : List Reply :=
  ((calls.zip replies).filter (·.1.visible)).map (·.2)

namespace ProfilerRun

def recordFailure (r : ProfilerRun) (k : CollectionKind) : ProfilerRun :=
  { r with profiler := r.profiler.recordFailure k }

theorem call_recordFailure (r : ProfilerRun) (k : CollectionKind) (call : Call) :
    (r.recordFailure k).call call = ((r.call call).1.recordFailure k, (r.call call).2) := by
  cases call with
  | lookup l => cases l <;> rfl
  | operation o =>
    cases o with
    | collect event sampled keepsUsage =>
      simp only [ProfilerRun.call, perform, recordFailure, Profiler.collect_recordFailure]
    | systemStartup | terminate | clearCustom =>
      simp only [ProfilerRun.call, perform, becomes, recordFailure, Profiler.systemStartup,
        Profiler.terminate, Profiler.clearCustom, Profiler.clearKinds_recordFailure]
    | _ => rfl

theorem serve_recordFailure (k : CollectionKind) : ∀ (calls : List Call) (r : ProfilerRun),
    (r.recordFailure k).serve calls = ((r.serve calls).1.recordFailure k, (r.serve calls).2)
  | [], _ => rfl
  | call :: rest, r => by
    simp only [serve, call_recordFailure, serve_recordFailure k rest]

theorem call_invisible {call : Call} (h : call.visible = false) (r : ProfilerRun) :
    (r.call call).1 = call.failed?.elim r r.recordFailure := by
  cases call with
  | lookup l => rfl
  | operation o =>
    cases o with
    | collect event sampled keepsUsage =>
      cases sampled with
      | error e => cases keepsUsage <;> rfl
      | ok sample => cases h
    | dump | dumpCustom | dumpMessage | appendMessage => rfl
    | _ => cases h

theorem serve_filter_visible : ∀ (calls : List Call) (r : ProfilerRun),
    (r.serve calls).1 =
        (calls.filterMap (·.failed?)).foldl recordFailure (r.serve (calls.filter (·.visible))).1 ∧
      visibleReplies calls (r.serve calls).2 = (r.serve (calls.filter (·.visible))).2
  | [], _ => ⟨rfl, rfl⟩
  | call :: rest, r => by
    obtain ⟨ihlast, ihreplies⟩ := serve_filter_visible rest (r.call call).1
    cases hvisible : call.visible with
    | true =>
      have hfailed := Call.failed?_of_visible hvisible
      constructor
      · simpa [serve, hvisible, hfailed] using ihlast
      · simpa [serve, visibleReplies, hvisible] using ihreplies
    | false =>
      have hreplies : visibleReplies (call :: rest) (r.serve (call :: rest)).2 =
          visibleReplies rest ((r.call call).1.serve rest).2 := by
        simp [serve, visibleReplies, hvisible]
      rw [hreplies, ihreplies, List.filter_cons_of_neg (by simp [hvisible])]
      show ((r.call call).1.serve rest).1 = _ ∧ _
      rw [ihlast, call_invisible hvisible]
      cases hfailed : call.failed? with
      | none => simp [hfailed]
      | some k => simp [hfailed, serve_recordFailure]

end ProfilerRun

/-! ## The lock -/

namespace SharedProfiler

theorem lock_eq (s : SharedProfiler) : s.lock = s.guarded := by
  unfold lock acquire
  cases s.poisoned <;> rfl

theorem call_eq (s : SharedProfiler) (call : Call) :
    (s.call call).1.lock = (s.lock.call call).1 ∧ (s.call call).2 = (s.lock.call call).2 := by
  simp only [lock_eq, SharedProfiler.call, and_self]

/-- Whether the lock is poisoned does not show. -/
theorem serve_eq : ∀ (calls : List Call) (s : SharedProfiler),
    (s.serve calls).1.lock = (s.lock.serve calls).1 ∧ (s.serve calls).2 = (s.lock.serve calls).2
  | [], _ => ⟨rfl, rfl⟩
  | call :: rest, s => by
    obtain ⟨hlast, hreplies⟩ := serve_eq rest (s.call call).1
    obtain ⟨hnext, hreply⟩ := s.call_eq call
    simp only [serve, ProfilerRun.serve, hlast, hreplies, hnext, hreply, and_self]

end SharedProfiler

/-! ## All but the failures -/

structure Metrics.FailedMore (n m : Metrics) (failed : CollectionKind → Nat) : Prop where
  rest : { n with failures := m.failures } = m
  failures : ∀ k, n.failures.reading k = m.failures.reading k + UInt64.ofNat (failed k)

structure ProfilerRun.FailedMore (r q : ProfilerRun) (failed : CollectionKind → Nat) : Prop where
  config : r.profiler.config = q.profiler.config
  caches : r.profiler.caches = q.profiler.caches
  mirroring : r.profiler.mirroring = q.profiler.mirroring
  usage : r.usage = q.usage
  metrics : Option.Rel (fun n m => n.FailedMore m failed) r.profiler.metrics q.profiler.metrics

theorem Metrics.failedMore_refl (m : Metrics) : m.FailedMore m fun _ => 0 :=
  ⟨rfl, fun _ => (UInt64.add_zero _).symm⟩

theorem Metrics.FailedMore.recordFailure {n m : Metrics} {failed : CollectionKind → Nat}
    (h : n.FailedMore m failed) (j : CollectionKind) :
    (n.recordFailure j).FailedMore m fun k => failed k + if k = j then 1 else 0 where
  rest := h.rest
  failures k := by
    rw [reading_recordFailure, h.failures, UInt64.ofNat_add]
    split <;> simp [UInt64.add_assoc]

theorem ProfilerRun.failedMore_refl (r : ProfilerRun) : r.FailedMore r fun _ => 0 where
  config := rfl
  caches := rfl
  mirroring := rfl
  usage := rfl
  metrics := by
    cases r.profiler.metrics with
    | none => exact .none
    | some m => exact .some m.failedMore_refl

theorem ProfilerRun.FailedMore.recordFailure {r q : ProfilerRun} {failed : CollectionKind → Nat}
    (h : r.FailedMore q failed) (j : CollectionKind) :
    (r.recordFailure j).FailedMore q fun k => failed k + if k = j then 1 else 0 where
  config := h.config
  caches := h.caches
  mirroring := h.mirroring
  usage := h.usage
  metrics := by
    have hmetrics := h.metrics
    unfold ProfilerRun.recordFailure Profiler.recordFailure
    cases hr : r.profiler.metrics <;> cases hq : q.profiler.metrics <;> rw [hr, hq] at hmetrics
    · exact .none
    · cases hmetrics
    · cases hmetrics
    · cases hmetrics with
      | some hm => exact .some (hm.recordFailure j)

theorem ProfilerRun.failedMore_foldl (q : ProfilerRun) (kinds : List CollectionKind) :
    (kinds.foldl recordFailure q).FailedMore q fun k => kinds.count k := by
  induction kinds using List.reverseRecOn with
  | nil => exact q.failedMore_refl
  | append_singleton kinds j ih =>
    have hcount (k : CollectionKind) :
        (kinds ++ [j]).count k = kinds.count k + if k = j then 1 else 0 := by
      rw [List.count_append, List.count_singleton]
      by_cases h : k = j
      · simp [h]
      · simp [h, Ne.symm h]
    simp only [List.foldl_append, List.foldl_cons, List.foldl_nil, hcount]
    exact ih.recordFailure j

/-! ## Invisibility -/

def Sources.failure? (s : Sources Id) : Option ProfilerError :=
  match s.packages.run, s.system.run with
  | .error e, _ => some (.source .packages e)
  | .ok _, .error e => some (.source .system e)
  | .ok _, .ok _ => none

theorem Sources.sample_eq (s : Sources Id) :
    (∃ e, s.failure? = some e ∧ s.sample.run = .error e) ∨
      s.failure? = none ∧ ∃ sample, s.sample.run = .ok sample := by
  obtain ⟨packages, system⟩ := s
  cases packages with
  | error e => exact .inl ⟨_, rfl, rfl⟩
  | ok packages =>
    cases system with
    | error e => exact .inl ⟨_, rfl, rfl⟩
    | ok system => exact .inr ⟨rfl, _, rfl⟩

def Call.event (event : Event) (sources : Sources Id) (keepsUsage : Bool) : Call :=
  .operation (.collect event sources.sample.run keepsUsage)

theorem Call.event_cases (event : Event) (sources : Sources Id) (keepsUsage : Bool) :
    (∃ e, sources.failure? = some e ∧
      Call.event event sources keepsUsage = .operation (.collect event (.error e) keepsUsage)) ∨
    (sources.failure? = none ∧ ∃ sample,
      Call.event event sources keepsUsage = .operation (.collect event (.ok sample) keepsUsage)) := by
  unfold Call.event
  rcases sources.sample_eq with ⟨e, hfailure, hsample⟩ | ⟨hfailure, sample, hsample⟩
  · exact .inl ⟨e, hfailure, by rw [hsample]⟩
  · exact .inr ⟨hfailure, sample, by rw [hsample]⟩

theorem Call.event_visible_iff (event : Event) (sources : Sources Id) (keepsUsage : Bool) :
    (Call.event event sources keepsUsage).visible = false ↔ ∃ e, sources.failure? = some e := by
  rcases Call.event_cases event sources keepsUsage with ⟨e, hfailure, hcall⟩ | ⟨hfailure, _, hcall⟩
  · rw [hcall]
    exact ⟨fun _ => ⟨e, hfailure⟩, fun _ => rfl⟩
  · rw [hcall, hfailure]
    simp [Call.visible]

theorem ProfilerRun.call_event_of_failure {sources : Sources Id} {e : ProfilerError}
    (h : sources.failure? = some e) (r : ProfilerRun) (event : Event) (keepsUsage : Bool) :
    r.call (.event event sources keepsUsage) =
      (r.recordFailure event.target.kind, .operation (.error e) r.usage) := by
  rcases Call.event_cases event sources keepsUsage with ⟨e', hfailure, hcall⟩ | ⟨hfailure, _, _⟩
  · obtain rfl : e' = e := Option.some.inj (hfailure.symm.trans h)
    rw [hcall]
    cases keepsUsage <;> rfl
  · cases hfailure.symm.trans h

/-- **Invisibility.** Whoever has called before and whether or not the lock is
poisoned: without the invisible calls a run leaves the same but for the number
of failed events of each kind, and gives the same replies to all other calls.
An event is invisible if and only if one of its sources fails. It then replies
with that failure, leaves the usage that its caller holds, and counts once, for
its own kind; nothing else changes, so no other record ages out either. -/
theorem failures_invisible (s : SharedProfiler) (calls : List Call) :
    let whole := s.serve calls
    let bare := s.serve (calls.filter (·.visible))
    whole.1.lock.FailedMore bare.1.lock (fun k => calls.countP (·.failed? == some k)) ∧
      visibleReplies calls whole.2 = bare.2 ∧
      ∀ event sources keepsUsage, let call := Call.event event sources keepsUsage
        (call.visible = false ↔ ∃ e, sources.failure? = some e) ∧
        ∀ e, sources.failure? = some e →
          (s.call call).2 = .operation (.error e) s.lock.usage ∧
            (s.call call).1.lock.FailedMore s.lock fun k => if k = event.target.kind then 1 else 0 := by
  intro whole bare
  obtain ⟨hwhole, hwholeReplies⟩ := s.serve_eq calls
  obtain ⟨hbare, hbareReplies⟩ := s.serve_eq (calls.filter (·.visible))
  obtain ⟨hlast, hreplies⟩ := ProfilerRun.serve_filter_visible calls s.lock
  refine ⟨?_, ?_, fun event sources keepsUsage => ?_⟩
  · have hfailed := ProfilerRun.failedMore_foldl bare.1.lock (calls.filterMap (·.failed?))
    rw [hbare, ← hlast, ← hwhole] at hfailed
    simpa only [List.count_filterMap, ← hbare] using hfailed
  · rw [hwholeReplies, hreplies, hbareReplies]
  · intro call
    refine ⟨Call.event_visible_iff event sources keepsUsage, fun e he => ?_⟩
    have hheld := (ProfilerRun.failedMore_refl s.lock).recordFailure event.target.kind
    simp only [Nat.zero_add] at hheld
    obtain ⟨hnext, hreply⟩ := s.call_eq call
    rw [hnext, hreply, ProfilerRun.call_event_of_failure he]
    exact ⟨rfl, hheld⟩

/-- A dump that breaks off under the lock and an event without sources, between other calls. -/
theorem failures_invisible_poisoned :
    let beyond : Timestamp := ⟨9000000000000000000000, by decide, by decide⟩
    let boot : Call := .operation (.collect ⟨.bootTime, beyond, .normal⟩ (.ok {}) true)
    let gone : Sources Id := ⟨.error (.unavailable "gone"), .error .empty⟩
    let periodic : Call := .event ⟨.periodic, beyond, .normal⟩ gone true
    let calls : List Call := [boot, .operation (.dump none), periodic, .lookup .sessions]
    let s : SharedProfiler := { guarded := { profiler := .fresh {} true } }
    (s.serve calls).1.poisoned = true ∧
      (s.serve calls).1.lock.FailedMore (s.serve [boot]).1.lock
        (fun k => if k = .periodic then 1 else 0) ∧
      visibleReplies calls (s.serve calls).2 = (s.serve [boot]).2 ∧
      gone.failure? = some (.source .packages (.unavailable "gone")) ∧
      (s.call periodic).2 = .operation (.error (.source .packages (.unavailable "gone"))) none := by
  intro beyond boot gone periodic calls s
  obtain ⟨hlast, hreplies, hevent⟩ := failures_invisible s calls
  have hcount : (fun k => calls.countP (·.failed? == some k)) =
      fun k => if k = CollectionKind.periodic then 1 else 0 := by
    funext k
    cases k <;> rfl
  rw [hcount] at hlast
  exact ⟨rfl, hlast, hreplies, rfl, ((hevent _ gone true).2 _ rfl).1⟩

end UsageWatch
