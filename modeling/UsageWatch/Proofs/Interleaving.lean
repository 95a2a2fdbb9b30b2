import Mathlib.Data.Finset.Card
import Mathlib.Order.Interval.Finset.Nat
import UsageWatch.Proofs.ServerEvent
import UsageWatch.Server.Interleaving
/-!
# Events in any order

The steps of events that are under way at the same time may follow each other
in any order. As long as there are fewer events than samples, the source moves
on once for each event that starts and does not come round, so whatever an event
reads is a sample, and an event that ends has added a record (`Sound.run`).
-/

namespace UsageWatch

/-! ## Stages -/

namespace Stage

def isWaiting : Stage → Bool
  | waiting => true
  | _ => false

inductive Next (s : Server) (event : Event) : Stage → Stage → Prop
  | readPackages : Next s event moved (packagesRead s.source.position s.source.sources.packages)
  | readSystem (packagesFrom : Nat) (packages : Except SourceError (List PackageUse)) :
    Next s event (packagesRead packagesFrom packages)
      (sampled packagesFrom s.source.position
        (Sources.sample (m := Id) ⟨packages, s.source.sources.system⟩))
  | finish (packagesFrom systemFrom : Nat) (sample : Except ProfilerError Sample) :
    Next s event (sampled packagesFrom systemFrom sample)
      (ended packagesFrom systemFrom (s.complete event sample).2)

variable {s : Server} {event : Event} {before after : Stage}

theorem Next.isWaiting_eq (h : Next s event before after) :
    before.isWaiting = false ∧ after.isWaiting = false := by
  cases h <;> exact ⟨rfl, rfl⟩

end Stage

namespace Concurrent

def position (c : Concurrent) : Nat := c.server.source.position

def stage? (c : Concurrent) (i : Nat) : Option Stage := c.events[i]?.map (·.stage)

/-! ## One turn -/

theorem turn_cases (c : Concurrent) (i : Nat) :
    c.turn i = c ∨ ∃ e, c.events[i]? = some e ∧
      (e.stage = .waiting ∧ c.turn i =
          { server := c.server.advance, events := c.events.set i { e with stage := .moved } } ∨
        ∃ server stage, Stage.Next c.server e.event e.stage stage ∧
          c.turn i = { server, events := c.events.set i { e with stage } } ∧
          server.source = c.server.source ∧
          server.profiler.config = c.server.profiler.config) := by
  unfold turn
  cases hevent : c.events[i]? with
  | none => exact .inl rfl
  | some e =>
    obtain ⟨event, stage⟩ := e
    cases stage with
    | waiting => exact .inr ⟨_, rfl, .inl ⟨rfl, rfl⟩⟩
    | moved => exact .inr ⟨_, rfl, .inr ⟨_, _, .readPackages, rfl, rfl, rfl⟩⟩
    | packagesRead packagesFrom packages =>
      exact .inr ⟨_, rfl, .inr ⟨_, _, .readSystem packagesFrom packages, rfl, rfl, rfl⟩⟩
    | sampled packagesFrom systemFrom sample =>
      exact .inr ⟨_, rfl, .inr ⟨_, _, .finish packagesFrom systemFrom sample, rfl,
        Server.source_complete _ _ _, Server.config_complete _ _ _⟩⟩
    | ended packagesFrom systemFrom result =>
      left
      obtain ⟨hi, hget⟩ := List.getElem?_eq_some_iff.mp hevent
      simp [EventUnderWay.step, ← hget]

theorem stage?_of_events {c c' : Concurrent} {i : Nat} {e e' : EventUnderWay}
    (h : c.events[i]? = some e) (hset : c'.events = c.events.set i e') (j : Nat) :
    c'.stage? j = if j = i then some e'.stage else c.stage? j := by
  obtain ⟨hi, -⟩ := List.getElem?_eq_some_iff.mp h
  unfold stage?
  rw [hset, List.getElem?_set]
  by_cases hj : j = i
  · simp [hj, hi]
  · simp [hj, Ne.symm hj]

theorem map_event_set {c : Concurrent} {i : Nat} {e : EventUnderWay} (h : c.events[i]? = some e)
    (stage : Stage) :
    (c.events.set i { e with stage }).map (·.event) = c.events.map (·.event) := by
  obtain ⟨hi, hget⟩ := List.getElem?_eq_some_iff.mp h
  have hself : (c.events.set i e).map (·.event) = c.events.map (·.event) := by
    rw [← hget, List.set_getElem_self]
  rw [List.map_set] at hself ⊢
  exact hself

/-- No event is lost or exchanged. -/
theorem map_event_run : ∀ (schedule : List Nat) (c : Concurrent),
    (c.run schedule).events.map (·.event) = c.events.map (·.event)
  | [], _ => rfl
  | i :: rest, c => by
    have hturn : (c.turn i).events.map (·.event) = c.events.map (·.event) := by
      rcases c.turn_cases i with hsame | ⟨e, hevent, ⟨-, hturn⟩ | ⟨server, stage, -, hturn, -, -⟩⟩
      · rw [hsame]
      · rw [hturn, map_event_set hevent]
      · rw [hturn, map_event_set hevent]
    exact (map_event_run rest (c.turn i)).trans hturn

theorem length_run (c : Concurrent) (schedule : List Nat) :
    (c.run schedule).events.length = c.events.length := by
  have hevents := congrArg List.length (map_event_run schedule c)
  rw [List.length_map, List.length_map] at hevents
  exact hevents

/-! ## What events have read -/

end Concurrent

/-- What was read are samples that the source has been at. -/
def EventUnderWay.Faithful (config : Config) (samples : List Sample) (position : Nat)
    (e : EventUnderWay) : Prop :=
  match e.stage with
  | .waiting | .moved => True
  | .packagesRead packagesFrom packages =>
    ∃ sample, samples[packagesFrom]? = some sample ∧ packages = .ok sample.packages
  | .sampled packagesFrom systemFrom sample =>
    systemFrom ≤ position ∧ ∃ first second, samples[packagesFrom]? = some first ∧
      samples[systemFrom]? = some second ∧ sample = .ok ⟨first.packages, second.system⟩
  | .ended packagesFrom systemFrom result =>
    systemFrom ≤ position ∧ ∃ first second collected previous?,
      samples[packagesFrom]? = some first ∧ samples[systemFrom]? = some second ∧
        result = .ok collected ∧ collected.record =
          .compute e.event.time ⟨first.packages, second.system⟩ config.bounds e.event.target.filter
            previous?

theorem EventUnderWay.Faithful.mono {config : Config} {samples : List Sample} {position position' : Nat}
    {e : EventUnderWay} (h : e.Faithful config samples position) (hle : position ≤ position') :
    e.Faithful config samples position' := by
  obtain ⟨event, stage⟩ := e
  cases stage with
  | waiting => trivial
  | moved => trivial
  | packagesRead => exact h
  | sampled | ended => exact ⟨Nat.le_trans h.1 hle, h.2⟩

namespace Concurrent

variable {config : Config} {samples : List Sample} {c : Concurrent} {i : Nat}

def started (c : Concurrent) : Finset Nat :=
  (Finset.range c.events.length).filter fun i => (c.stage? i).any (!·.isWaiting)

theorem card_started_le (c : Concurrent) : c.started.card ≤ c.events.length := by
  have hle := Finset.card_filter_le (Finset.range c.events.length)
    fun i => (c.stage? i).any (!·.isWaiting) = true
  rw [Finset.card_range] at hle
  exact hle

/-- The source has moved on once for every event that has started, and has not come round. -/
structure Sound (config : Config) (samples : List Sample) (c : Concurrent) : Prop where
  configured : c.server.profiler.config = config
  source : c.server.source.samples = samples
  few : c.events.length < samples.length
  counted : c.position = c.started.card
  faithful : ∀ e ∈ c.events, e.Faithful config samples c.position

theorem Sound.position_le (h : c.Sound config samples) : c.position ≤ c.events.length := by
  rw [h.counted]
  exact c.card_started_le

theorem Sound.exists_current (h : c.Sound config samples) :
    ∃ sample, samples[c.position]? = some sample ∧ c.server.source.current = .ok sample := by
  have hlt : c.position < samples.length := Nat.lt_of_le_of_lt h.position_le h.few
  have hget : samples[c.position]? = some samples[c.position] := List.getElem?_eq_getElem hlt
  refine ⟨samples[c.position], hget, ReplaySource.current_eq_ok ?_⟩
  rw [h.source]
  exact hget

theorem stage?_of_event {e : EventUnderWay} (h : c.events[i]? = some e) : c.stage? i = some e.stage := by
  unfold stage?
  rw [h]
  rfl

theorem lt_of_stage? {stage : Stage} (h : c.stage? i = some stage) : i < c.events.length := by
  obtain ⟨e, he, -⟩ := Option.map_eq_some_iff.mp h
  exact (List.getElem?_eq_some_iff.mp he).1

theorem mem_started : i ∈ c.started ↔ ∃ stage, c.stage? i = some stage ∧ stage.isWaiting = false := by
  unfold started
  rw [Finset.mem_filter, Finset.mem_range]
  cases hstage : c.stage? i with
  | none => simp
  | some stage => simp [lt_of_stage? hstage]

theorem notMem_started (h : c.stage? i = some .waiting) : i ∉ c.started := by
  rw [mem_started]
  rintro ⟨stage, hstage, hstarted⟩
  rw [h] at hstage
  cases hstage
  cases hstarted

theorem Sound.position_lt (h : c.Sound config samples) (hwaiting : c.stage? i = some .waiting) :
    c.position < c.events.length := by
  have hsubset : c.started ⊂ Finset.range c.events.length := by
    refine Finset.ssubset_iff_subset_ne.mpr ⟨Finset.filter_subset _ _, fun heq => ?_⟩
    have hmem : i ∈ c.started := by
      rw [heq, Finset.mem_range]
      exact lt_of_stage? hwaiting
    exact notMem_started hwaiting hmem
  have hcard := Finset.card_lt_card hsubset
  rw [Finset.card_range, ← h.counted] at hcard
  exact hcard

/-- An event that starts takes the source to the next sample. -/
theorem Sound.advance_eq (h : c.Sound config samples) (hwaiting : c.stage? i = some .waiting) :
    c.server.source.advance = { c.server.source with position := c.position + 1 } := by
  refine ReplaySource.advance_of_lt ?_
  rw [h.source]
  exact Nat.lt_of_le_of_lt (h.position_lt hwaiting) h.few

theorem started_set {e : EventUnderWay} {stage : Stage} {server : Server}
    (hevent : c.events[i]? = some e) (hstarted : stage.isWaiting = false) :
    started { server, events := c.events.set i { e with stage } } = insert i c.started := by
  ext j
  rw [Finset.mem_insert, mem_started, mem_started, stage?_of_events hevent rfl]
  by_cases hj : j = i
  · simp [hj, hstarted]
  · simp [hj]

theorem Sound.faithful_next (h : c.Sound config samples) {e : EventUnderWay} (he : e ∈ c.events)
    {stage : Stage} (hnext : Stage.Next c.server e.event e.stage stage) :
    EventUnderWay.Faithful config samples c.position { e with stage } := by
  have hfaithful := h.faithful e he
  obtain ⟨here, hhere, hcurrent⟩ := h.exists_current
  obtain ⟨event, before⟩ := e
  cases hnext with
  | readPackages =>
    refine ⟨here, hhere, ?_⟩
    rw [ReplaySource.sources, hcurrent]
    rfl
  | readSystem packagesFrom packages =>
    obtain ⟨first, hfirst, hpackages⟩ := hfaithful
    refine ⟨Nat.le_refl _, first, here, hfirst, hhere, ?_⟩
    rw [hpackages, ReplaySource.sources, hcurrent]
    rfl
  | finish packagesFrom systemFrom sample =>
    obtain ⟨hle, first, second, hfirst, hsecond, hsample⟩ := hfaithful
    obtain ⟨collected, hresult, hrecord, -⟩ :=
      c.server.complete_ok event ⟨first.packages, second.system⟩
    refine ⟨hle, first, second, collected, c.server.profiler.caches.previous? event.target, hfirst,
      hsecond, ?_, ?_⟩
    · rw [hsample]
      exact hresult
    · rw [hrecord, h.configured]

theorem Sound.turn (h : c.Sound config samples) (i : Nat) : (c.turn i).Sound config samples := by
  have hfew (e : EventUnderWay) : (c.events.set i e).length < samples.length := by
    rw [List.length_set]
    exact h.few
  rcases c.turn_cases i with hsame | ⟨e, hevent, ⟨hwaiting, hturn⟩ |
    ⟨server, stage, hnext, hturn, hsource, hconfig⟩⟩
  · rw [hsame]
    exact h
  · have hstage := stage?_of_event hevent
    rw [hwaiting] at hstage
    have hadvance := h.advance_eq hstage
    rw [hturn]
    constructor
    · exact h.configured
    · exact (ReplaySource.samples_advance _).trans h.source
    · exact hfew _
    · rw [started_set hevent rfl, Finset.card_insert_of_notMem (notMem_started hstage), ← h.counted]
      exact congrArg ReplaySource.position hadvance
    · intro e' he'
      rcases List.mem_or_eq_of_mem_set he' with he' | rfl
      · refine (h.faithful e' he').mono ?_
        have hposition : c.server.advance.source.position = c.position + 1 :=
          congrArg ReplaySource.position hadvance
        unfold position
        rw [hposition]
        exact Nat.le_succ _
      · trivial
  · have hmem : i ∈ c.started := mem_started.mpr ⟨_, stage?_of_event hevent, hnext.isWaiting_eq.1⟩
    rw [hturn]
    constructor
    · exact hconfig.trans h.configured
    · exact (congrArg ReplaySource.samples hsource).trans h.source
    · exact hfew _
    · rw [started_set hevent hnext.isWaiting_eq.2, Finset.insert_eq_of_mem hmem, ← h.counted]
      exact congrArg ReplaySource.position hsource
    · intro e' he'
      have hposition : server.source.position = c.position := congrArg ReplaySource.position hsource
      unfold position
      rw [hposition]
      rcases List.mem_or_eq_of_mem_set he' with he' | rfl
      · exact h.faithful e' he'
      · exact h.faithful_next (List.mem_of_getElem? hevent) hnext

theorem Sound.run : ∀ (schedule : List Nat) {c : Concurrent}, c.Sound config samples →
    (c.run schedule).Sound config samples
  | [], _, h => h
  | i :: rest, _, h => Sound.run rest (h.turn i)

theorem Sound.turn_of_waiting (h : c.Sound config samples) (hwaiting : c.stage? i = some .waiting) :
    (c.turn i).position = c.position + 1 ∧
      ∀ j, (c.turn i).stage? j = if j = i then some .moved else c.stage? j := by
  obtain ⟨e, hevent, hstage⟩ := Option.map_eq_some_iff.mp hwaiting
  have hturn : c.turn i =
      { server := c.server.advance, events := c.events.set i { e with stage := .moved } } := by
    unfold Concurrent.turn EventUnderWay.step
    rw [hevent]
    simp only [hstage]
  refine ⟨?_, fun j => ?_⟩
  · rw [hturn]
    exact congrArg ReplaySource.position (h.advance_eq hwaiting)
  · rw [hturn, stage?_of_events hevent rfl]

/-- What a turn does to the stages and to the position. -/
theorem Sound.stages_turn (h : c.Sound config samples) (i : Nat) :
    c.turn i = c ∨
      (c.stage? i = some .waiting ∧ (c.turn i).position = c.position + 1 ∧
        ∀ j, (c.turn i).stage? j = if j = i then some .moved else c.stage? j) ∨
      ∃ event before after, c.stage? i = some before ∧ Stage.Next c.server event before after ∧
        (c.turn i).position = c.position ∧
        ∀ j, (c.turn i).stage? j = if j = i then some after else c.stage? j := by
  rcases c.turn_cases i with hsame | ⟨e, hevent, ⟨hwaiting, -⟩ |
    ⟨server, stage, hnext, hturn, hsource, -⟩⟩
  · exact .inl hsame
  · have hstage := stage?_of_event hevent
    rw [hwaiting] at hstage
    exact .inr (.inl ⟨hstage, h.turn_of_waiting hstage⟩)
  · refine .inr (.inr ⟨e.event, e.stage, stage, stage?_of_event hevent, hnext, ?_, fun j => ?_⟩)
    · rw [hturn]
      exact congrArg ReplaySource.position hsource
    · rw [hturn, stage?_of_events hevent rfl]

end Concurrent

end UsageWatch
