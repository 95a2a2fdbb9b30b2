import Mathlib.Data.List.Chain
import UsageWatch.Proofs.CacheInput
/-!
# The change of major faults

A record states how its major faults changed against the record before it. No
matter what was evicted, swept or cleared in between, of two neighbours in a
cache or a session the second states its change against the first, and the
first record of a cache or a session states none (`changes_chained`).
-/

namespace UsageWatch

def Record.Follows (previous r : Record) : Prop :=
  r.packages.majorFaultsChange =
    percentChange previous.packages.totalMajorFaults r.packages.totalMajorFaults

def CollectionKind.sequences : (k : CollectionKind) → k.Cache → List (List Record)
  | .userSwitch, s => s.sessions.map (·.collection.records)
  | .bootTime, c => [c.records]
  | .wakeUp, c => [c.records]
  | .periodic, c => [c.records]
  | .custom, c => [c.records]

def Caches.Begins (c : Caches) (event : Event) : Prop :=
  c.recordCount event.target.kind = 0 ∨
    ∃ origin target, event.target = .userSwitch origin target ∧
      (c.userSwitch.appendOutcome origin target event.time).opened = true

/-! ## Computed records -/

theorem Record.follows_compute (time : Timestamp) (sample : Sample) (bounds : Bounds)
    (filter : PackageFilter) (previous : Record) :
    previous.Follows (.compute time sample bounds filter (some previous)) := rfl

theorem Record.change_compute_none (time : Timestamp) (sample : Sample) (bounds : Bounds)
    (filter : PackageFilter) :
    (Record.compute time sample bounds filter none).packages.majorFaultsChange = 0 := rfl

theorem Record.follows_compute_of_eq {previous? : Option Record} {previous : Record}
    (h : previous? = some previous) (time : Timestamp) (sample : Sample) (bounds : Bounds)
    (filter : PackageFilter) :
    previous.Follows (.compute time sample bounds filter previous?) := by
  subst h; exact follows_compute time sample bounds filter previous

/-! ## Chains in a cache -/

/-- A suffix keeps its neighbours, and what stands before a new record is what it followed. -/
theorem Collection.isChain_append {c : Collection} (hc : c.records.IsChain Record.Follows)
    {r : Record} (hr : ∀ previous, c.last? = some previous → previous.Follows r)
    (now : Timestamp) : (c.append r now).records.IsChain Record.Follows := by
  rw [records_append]
  refine (hc.suffix (c.makeRoom_suffix now)).append (List.isChain_singleton r) ?_
  intro previous hprevious next hnext
  have hlast : c.last? = some previous := last?_of_suffix (c.makeRoom_suffix now) hprevious
  rw [List.head?_cons, Option.mem_some_iff] at hnext
  exact hnext ▸ hr previous hlast

theorem Collection.isChain_receive (bounds : Bounds) (c : Collection) (input : CacheInput)
    (hc : c.records.IsChain Record.Follows) :
    (c.receive bounds input).records.IsChain Record.Follows := by
  cases input with
  | collected target time sample =>
    exact isChain_append hc
      (fun _ hlast => Record.follows_compute_of_eq hlast time sample bounds _) time
  | swept now => exact hc.suffix (c.sweep_suffix now)
  | cleared => exact List.isChain_nil

def SessionStore.Chained (s : SessionStore) : Prop :=
  ∀ session ∈ s.sessions, session.collection.records.IsChain Record.Follows

theorem SessionStore.Chained.goal {s : SessionStore} (hs : s.Chained) (origin target : Count) :
    (s.goal origin target).collection.records.IsChain Record.Follows := by
  rcases s.goal_mem_or_empty origin target with hmem | hempty
  · exact hs _ hmem
  · rw [hempty]; exact List.isChain_nil

theorem SessionStore.Chained.append {s : SessionStore} (hs : s.Chained) {origin target : Count}
    {r : Record} (hr : ∀ previous, s.previous? origin target = some previous → previous.Follows r)
    (now : Timestamp) : (s.append origin target r now).Chained := by
  intro session hsession
  rw [sessions_append, List.mem_append, List.mem_singleton] at hsession
  rcases hsession with hother | rfl
  · exact hs session (mem_others hother)
  · refine Collection.isChain_append (hs.goal origin target) (fun previous hlast => ?_) now
    rw [← previous?_eq] at hlast
    exact hr previous hlast

theorem SessionStore.Chained.sweep {s : SessionStore} (hs : s.Chained) (now : Timestamp) :
    (s.sweep now).Chained := by
  intro session hsession
  obtain ⟨old, hold, rfl⟩ := mem_sessions_sweep hsession
  exact (hs old hold).suffix (old.collection.sweep_suffix now)

theorem SessionStore.chained_receive (bounds : Bounds) (s : SessionStore) (input : CacheInput)
    (hs : s.Chained) : (s.receive bounds input).Chained := by
  cases input with
  | collected target time sample =>
    cases target with
    | userSwitch origin target =>
      exact hs.append
        (fun _ hlast => Record.follows_compute_of_eq hlast time sample bounds {}) time
    | _ => exact hs
  | swept now => exact hs.sweep now
  | cleared => intro session hsession; cases hsession

def CollectionKind.Chained (k : CollectionKind) (cache : k.Cache) : Prop :=
  ∀ records ∈ k.sequences cache, records.IsChain Record.Follows

theorem CollectionKind.chained_receive (bounds : Bounds) (k : CollectionKind) (cache : k.Cache)
    (input : CacheInput) (h : k.Chained cache) : k.Chained (k.receive bounds cache input) := by
  have hcollection : ∀ c : Collection, (∀ records ∈ [c.records], records.IsChain Record.Follows) →
      ∀ records ∈ [(c.receive bounds input).records], records.IsChain Record.Follows := by
    intro c hc
    rw [List.forall_mem_singleton] at hc ⊢
    exact c.isChain_receive bounds input hc
  cases k with
  | userSwitch =>
    have hs := SessionStore.chained_receive bounds cache input
      fun session hsession => h _ (List.mem_map_of_mem hsession)
    intro records hrecords
    obtain ⟨session, hsession, rfl⟩ := List.mem_map.mp hrecords
    exact hs session hsession
  | bootTime | wakeUp | periodic | custom => exact hcollection cache h

theorem ProfilerRun.chained_after (config : Config) (metered : Bool) (operations : List Operation)
    (k : CollectionKind) : k.Chained ((after config metered operations).profiler.caches.get k) := by
  refine get_after_induction config metered operations k ?_ (k.chained_receive config.bounds)
  intro records hrecords
  have hnil : records = [] := by
    cases k with
    | userSwitch => cases hrecords
    | bootTime | wakeUp | periodic | custom => exact List.mem_singleton.mp hrecords
  rw [hnil]
  exact List.isChain_nil

/-! ## The first record -/

theorem Caches.Begins.previous?_eq_none {c : Caches} {event : Event} (h : c.Begins event) :
    c.previous? event.target = none := by
  rcases h with hcount | ⟨origin, target, htarget, hopened⟩
  · cases htarget : event.target with
    | userSwitch origin target =>
      rw [htarget] at hcount
      exact SessionStore.previous?_eq_none_of_recordCount hcount origin target
    | _ =>
      rw [htarget] at hcount
      exact Collection.last?_eq_none hcount
  · rw [SessionStore.opened_iff] at hopened
    rw [htarget]
    show (c.userSwitch.current? origin target).bind (·.collection.last?) = none
    rw [hopened, Option.bind_none]

/-- **The chain of changes.** After every run, of two neighbours in a cache or
a session the second states its change against the first; and an event that is
then collected, if its record is the first of a cache or opens a session, adds
a record without a change. -/
theorem changes_chained (config : Config) (metered : Bool) (operations : List Operation) :
    let p := (ProfilerRun.after config metered operations).profiler
    (∀ k : CollectionKind, ∀ records ∈ k.sequences (p.caches.get k), records.IsChain Record.Follows) ∧
      ∀ event sample, p.caches.Begins event →
        ∃ collected, (p.collect event (.ok sample)).2 = .ok collected ∧
          (p.collect event (.ok sample)).1.caches.previous? event.target = some collected.record ∧
          collected.record.packages.majorFaultsChange = 0 := by
  intro p
  refine ⟨ProfilerRun.chained_after config metered operations, fun event sample hbegins => ?_⟩
  obtain ⟨collected, hanswer, hnewest⟩ := p.collect_eq_ok event sample
  refine ⟨collected, hanswer, hnewest, ?_⟩
  rw [Profiler.caches_collect, Caches.previous?_collect, hbegins.previous?_eq_none,
    Option.some.injEq] at hnewest
  rw [← hnewest]
  exact Record.change_compute_none ..

/-- Of two records of a session the second, with 15 faults after 10, states a change
of half as many again. A switch back opens a session of its own, so its record states none. -/
theorem changes_chained_switch_back :
    let sample (faults : Counter) : Sample :=
      { packages := [{ uid := 1000, cpuTime := 5, group := { majorFaults := faults } }] }
    let switch (faults : Counter) : Operation :=
      .collect ⟨.userSwitch 0 10, .epoch, .normal⟩ (.ok (sample faults)) false
    let p := (ProfilerRun.after {} false [switch 10, switch 15]).profiler
    let back : Event := ⟨.userSwitch 10 0, .epoch, .normal⟩
    (∃ first second, CollectionKind.userSwitch.sequences p.caches.userSwitch = [[first, second]] ∧
        first.Follows second ∧ first.packages.majorFaultsChange = 0 ∧
        second.packages.majorFaultsChange = 50) ∧
      p.caches.Begins back ∧
      ∃ collected, (p.collect back (.ok (sample 15))).2 = .ok collected ∧
        collected.record.packages.majorFaultsChange = 0 := by
  intro sample switch p back
  obtain ⟨hchains, hfirst⟩ := changes_chained {} false [switch 10, switch 15]
  let first : Record := .compute .epoch (sample 10) ⟨10, 5⟩ {} none
  let second : Record := .compute .epoch (sample 15) ⟨10, 5⟩ {} (some first)
  have hsessions : CollectionKind.userSwitch.sequences p.caches.userSwitch = [[first, second]] := by
    rfl
  have hmem : [first, second] ∈ CollectionKind.userSwitch.sequences p.caches.userSwitch :=
    hsessions ▸ List.mem_singleton_self _
  have hfollows : first.Follows second := List.isChain_pair.mp (hchains .userSwitch _ hmem)
  have hchange : second.packages.majorFaultsChange = 50 := by decide +kernel
  have hbegins : p.caches.Begins back := .inr ⟨10, 0, rfl, rfl⟩
  obtain ⟨collected, hanswer, -, hnone⟩ := hfirst back (sample 15) hbegins
  exact ⟨⟨first, second, hsessions, hfollows, rfl, hchange⟩, hbegins, collected, hanswer, hnone⟩

end UsageWatch
