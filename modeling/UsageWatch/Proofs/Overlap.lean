import UsageWatch.Proofs.Interleaving
/-!
# Events that overlap

Between moving the source on and reading it, an event can be overtaken: another
one moves the source again, and both read the same sample, or one of them reads
the halves of two. So intervals are recorded once exactly if no event starts
while another one has still to read (`recorded_once_iff`).
-/

namespace UsageWatch

/-! ## Stages -/

namespace Stage

def isReading : Stage → Bool
  | moved | packagesRead .. => true
  | _ => false

def isEnded : Stage → Bool
  | ended .. => true
  | _ => false

/-- The samples that a record was computed from: the one with its packages, and
the one with its system counters. -/
def recordedFrom? : Stage → Option (Nat × Nat)
  | ended packagesFrom systemFrom (.ok _) => some (packagesFrom, systemFrom)
  | _ => none

/-- The sample that an event has read, or reads next if nothing comes in between. -/
def number? (position : Nat) : Stage → Option Nat
  | waiting => none
  | moved | packagesRead .. => some position
  | sampled _ systemFrom _ | ended _ systemFrom _ => some systemFrom

def Whole (position : Nat) : Stage → Prop
  | waiting | moved => True
  | packagesRead packagesFrom _ => packagesFrom = position
  | sampled packagesFrom systemFrom _ | ended packagesFrom systemFrom _ => packagesFrom = systemFrom

def systemFrom? : Stage → Option Nat
  | sampled _ systemFrom _ | ended _ systemFrom _ => some systemFrom
  | _ => none

variable {s : Server} {event : Event} {before after : Stage}

theorem Next.systemFrom?_eq (h : Next s event before after) :
    after.systemFrom? = before.systemFrom? ∨ after.systemFrom? = some s.source.position := by
  cases h with
  | readPackages => exact .inl rfl
  | readSystem packagesFrom packages => exact .inr rfl
  | finish packagesFrom systemFrom sample => exact .inl rfl

theorem Next.number?_eq (h : Next s event before after) :
    after.number? s.source.position = before.number? s.source.position := by
  cases h <;> rfl

theorem Next.whole (h : Next s event before after) (hbefore : before.Whole s.source.position) :
    after.Whole s.source.position := by
  cases h with
  | readPackages => exact rfl
  | readSystem packagesFrom packages => exact hbefore
  | finish packagesFrom systemFrom sample => exact hbefore

theorem number?_of_not_reading {stage : Stage} (h : stage.isReading = false) (position position' : Nat) :
    stage.number? position = stage.number? position' := by
  cases stage <;> first | rfl | cases h

theorem Whole.of_not_reading {stage : Stage} (h : stage.isReading = false) {position : Nat}
    (hwhole : stage.Whole position) (position' : Nat) : stage.Whole position' := by
  cases stage <;> first | exact hwhole | cases h

end Stage

namespace Concurrent

/-- No event starts while another one is reading. -/
def startsApart (c : Concurrent) : List Nat → Bool
  | [] => true
  | i :: rest =>
    !((c.stage? i).any (·.isWaiting) && c.events.any (·.stage.isReading)) &&
      (c.turn i).startsApart rest

def recordedFrom? (c : Concurrent) (i : Nat) : Option (Nat × Nat) := (c.stage? i).bind (·.recordedFrom?)

/-- Every record is computed from one sample, and no two from the same. -/
structure RecordsOnce (c : Concurrent) : Prop where
  whole : ∀ i packagesFrom systemFrom, c.recordedFrom? i = some (packagesFrom, systemFrom) →
    packagesFrom = systemFrom
  once : ∀ i j samples, c.recordedFrom? i = some samples → c.recordedFrom? j = some samples → i = j

/-! ## Starting apart -/

variable {config : Config} {samples : List Sample} {c : Concurrent} {i : Nat}

def number? (c : Concurrent) (i : Nat) : Option Nat := (c.stage? i).bind (·.number? c.position)

structure InOrder (c : Concurrent) : Prop where
  whole : ∀ i stage, c.stage? i = some stage → stage.Whole c.position
  bounded : ∀ i k, c.number? i = some k → k ≤ c.position
  apart : ∀ i j k, c.number? i = some k → c.number? j = some k → i = j

theorem InOrder.start {c' : Concurrent} (h : c.InOrder)
    (hclear : ∀ j stage, c.stage? j = some stage → stage.isReading = false)
    (hposition : c'.position = c.position + 1)
    (hstages : ∀ j, c'.stage? j = if j = i then some .moved else c.stage? j) : c'.InOrder := by
  have hnumbers : ∀ j, c'.number? j = if j = i then some (c.position + 1) else c.number? j := by
    intro j
    unfold number?
    rw [hstages, hposition]
    by_cases hj : j = i
    · rw [if_pos hj, if_pos hj]
      rfl
    · rw [if_neg hj, if_neg hj]
      cases hstage : c.stage? j with
      | none => rfl
      | some stage => exact Stage.number?_of_not_reading (hclear j stage hstage) _ _
  -- only the event that starts is given the new number
  have hnew : ∀ j, c.number? j ≠ some (c.position + 1) := by
    intro j heq
    exact Nat.not_succ_le_self _ (h.bounded j _ heq)
  constructor
  · intro j stage hstage
    rw [hstages] at hstage
    by_cases hj : j = i
    · rw [if_pos hj] at hstage
      cases hstage
      trivial
    · rw [if_neg hj] at hstage
      exact (h.whole j stage hstage).of_not_reading (hclear j stage hstage) _
  · intro j k hk
    rw [hnumbers] at hk
    rw [hposition]
    by_cases hj : j = i
    · rw [if_pos hj] at hk
      cases hk
      exact Nat.le_refl _
    · rw [if_neg hj] at hk
      exact Nat.le_succ_of_le (h.bounded j k hk)
  · intro j j' k hk hk'
    rw [hnumbers] at hk hk'
    by_cases hj : j = i <;> by_cases hj' : j' = i
    · rw [hj, hj']
    · rw [if_pos hj] at hk
      rw [if_neg hj', ← hk] at hk'
      exact absurd hk' (hnew j')
    · rw [if_pos hj'] at hk'
      rw [if_neg hj, ← hk'] at hk
      exact absurd hk (hnew j)
    · rw [if_neg hj] at hk
      rw [if_neg hj'] at hk'
      exact h.apart j j' k hk hk'

/-- Reading and recording keep every number. -/
theorem InOrder.next {c' : Concurrent} (h : c.InOrder) {event : Event} {before after : Stage}
    (hbefore : c.stage? i = some before) (hnext : Stage.Next c.server event before after)
    (hposition : c'.position = c.position)
    (hstages : ∀ j, c'.stage? j = if j = i then some after else c.stage? j) : c'.InOrder := by
  have hnumbers : ∀ j, c'.number? j = c.number? j := by
    intro j
    unfold number?
    rw [hstages, hposition]
    by_cases hj : j = i
    · rw [if_pos hj, hj, hbefore]
      exact hnext.number?_eq
    · rw [if_neg hj]
  constructor
  · intro j stage hstage
    rw [hstages] at hstage
    rw [hposition]
    by_cases hj : j = i
    · rw [if_pos hj] at hstage
      cases hstage
      exact hnext.whole (h.whole i before hbefore)
    · rw [if_neg hj] at hstage
      exact h.whole j stage hstage
  · intro j k hk
    rw [hnumbers] at hk
    rw [hposition]
    exact h.bounded j k hk
  · intro j j' k hk hk'
    rw [hnumbers] at hk hk'
    exact h.apart j j' k hk hk'

theorem InOrder.turn (h : c.InOrder) (hsound : c.Sound config samples) (i : Nat)
    (hclear : c.stage? i = some .waiting → ∀ j stage, c.stage? j = some stage → stage.isReading = false) :
    (c.turn i).InOrder := by
  rcases hsound.stages_turn i with hsame | ⟨hwaiting, hposition, hstages⟩ |
    ⟨event, before, after, hbefore, hnext, hposition, hstages⟩
  · rw [hsame]
    exact h
  · exact h.start (hclear hwaiting) hposition hstages
  · exact h.next hbefore hnext hposition hstages

theorem startsApart_cons (c : Concurrent) (i : Nat) (rest : List Nat) :
    c.startsApart (i :: rest) = true ↔
      (c.stage? i = some .waiting → ∀ j stage, c.stage? j = some stage → stage.isReading = false) ∧
        (c.turn i).startsApart rest = true := by
  have hwaiting : (c.stage? i).any (·.isWaiting) = true ↔ c.stage? i = some .waiting := by
    cases hstage : c.stage? i with
    | none => simp
    | some stage => cases stage <;> simp [Stage.isWaiting]
  have hreading : c.events.any (·.stage.isReading) = false ↔
      ∀ j stage, c.stage? j = some stage → stage.isReading = false := by
    rw [List.any_eq_false]
    constructor
    · intro h j stage hstage
      obtain ⟨e, he, rfl⟩ := Option.map_eq_some_iff.mp hstage
      simpa using h e (List.mem_of_getElem? he)
    · intro h e he
      obtain ⟨j, hj⟩ := List.mem_iff_getElem?.mp he
      simpa using h j e.stage (stage?_of_event hj)
  rw [startsApart, Bool.and_eq_true, Bool.not_eq_true', Bool.and_eq_false_iff, hreading, ← hwaiting,
    ← Bool.not_eq_true, imp_iff_not_or]

theorem InOrder.run : ∀ (schedule : List Nat) {c : Concurrent}, c.InOrder → c.Sound config samples →
    c.startsApart schedule = true → (c.run schedule).InOrder
  | [], _, h, _, _ => h
  | i :: rest, c, h, hsound, hapart => by
    obtain ⟨hclear, hrest⟩ := (c.startsApart_cons i rest).mp hapart
    exact InOrder.run rest (h.turn hsound i hclear) (hsound.turn i) hrest

theorem recordedFrom?_eq_some {samples : Nat × Nat} (h : c.recordedFrom? i = some samples) :
    ∃ collected, c.stage? i = some (.ended samples.1 samples.2 (.ok collected)) := by
  obtain ⟨stage, hstage, hrecorded⟩ := Option.bind_eq_some_iff.mp h
  cases stage with
  | ended packagesFrom systemFrom result =>
    cases result with
    | error e => cases hrecorded
    | ok collected =>
      cases hrecorded
      exact ⟨collected, hstage⟩
  | _ => cases hrecorded

theorem InOrder.recordsOnce (h : c.InOrder) : c.RecordsOnce where
  whole i packagesFrom systemFrom hrecorded := by
    obtain ⟨collected, hstage⟩ := recordedFrom?_eq_some hrecorded
    exact h.whole i _ hstage
  once i j samples hi hj := by
    obtain ⟨collected, hstage⟩ := recordedFrom?_eq_some hi
    obtain ⟨collected', hstage'⟩ := recordedFrom?_eq_some hj
    refine h.apart i j samples.2 ?_ ?_
    · rw [number?, hstage]
      rfl
    · rw [number?, hstage']
      rfl

/-! ## Overlapping -/

def systemFrom? (c : Concurrent) (i : Nat) : Option Nat := (c.stage? i).bind (·.systemFrom?)

/-- From `least` on, some events have not yet read what they read in the end. -/
structure LateFrom (least : Nat) (late : Finset Nat) (c : Concurrent) : Prop where
  reached : least ≤ c.position
  read : ∀ k ∈ late, ∀ systemFrom, c.systemFrom? k = some systemFrom → least ≤ systemFrom

theorem LateFrom.turn {least : Nat} {late : Finset Nat} (h : LateFrom least late c)
    (hsound : c.Sound config samples) (i : Nat) : LateFrom least late (c.turn i) := by
  rcases hsound.stages_turn i with hsame | ⟨hwaiting, hposition, hstages⟩ |
    ⟨event, before, after, hbefore, hnext, hposition, hstages⟩
  · rw [hsame]
    exact h
  · constructor
    · rw [hposition]
      exact Nat.le_succ_of_le h.reached
    · intro k hk systemFrom hread
      rw [systemFrom?, hstages] at hread
      by_cases hki : k = i
      · rw [if_pos hki] at hread
        cases hread
      · rw [if_neg hki] at hread
        exact h.read k hk systemFrom hread
  · constructor
    · rw [hposition]
      exact h.reached
    · intro k hk systemFrom hread
      rw [systemFrom?, hstages] at hread
      by_cases hki : k = i
      · rw [if_pos hki] at hread
        rcases hnext.systemFrom?_eq with hsame | hnew
        · refine h.read k hk systemFrom ?_
          rw [systemFrom?, hki, hbefore]
          exact hsame.symm.trans hread
        · have hhere : some c.position = some systemFrom := hnew.symm.trans hread
          cases hhere
          exact h.reached
      · rw [if_neg hki] at hread
        exact h.read k hk systemFrom hread

theorem LateFrom.run {least : Nat} {late : Finset Nat} :
    ∀ (schedule : List Nat) {c : Concurrent}, LateFrom least late c → c.Sound config samples →
      LateFrom least late (c.run schedule)
  | [], _, h, _ => h
  | i :: rest, _, h, hsound => LateFrom.run rest (h.turn hsound i) (hsound.turn i)

theorem Sound.exists_ended (h : c.Sound config samples) (hended : ∀ e ∈ c.events, e.stage.isEnded = true)
    (hi : i < c.events.length) :
    ∃ packagesFrom systemFrom collected,
      c.stage? i = some (.ended packagesFrom systemFrom (.ok collected)) ∧ systemFrom ≤ c.position := by
  obtain ⟨e, hevent⟩ : ∃ e, c.events[i]? = some e := ⟨_, List.getElem?_eq_getElem hi⟩
  have hmem := List.mem_of_getElem? hevent
  have hstage := stage?_of_event hevent
  have hfaithful := h.faithful e hmem
  have hisEnded := hended e hmem
  obtain ⟨event, stage⟩ := e
  cases stage with
  | ended packagesFrom systemFrom result =>
    obtain ⟨hle, _, _, collected, _, _, _, hresult, _⟩ := hfaithful
    rw [hresult] at hstage
    exact ⟨packagesFrom, systemFrom, collected, hstage, hle⟩
  | _ => cases hisEnded

theorem Sound.exists_record (h : c.Sound config samples)
    (hended : ∀ e ∈ c.events, e.stage.isEnded = true) (honce : c.RecordsOnce)
    (hi : i < c.events.length) :
    ∃ sample, c.systemFrom? i = some sample ∧ c.recordedFrom? i = some (sample, sample) ∧
      sample ≤ c.events.length := by
  obtain ⟨packagesFrom, systemFrom, collected, hstage, hle⟩ := h.exists_ended hended hi
  have hrecorded : c.recordedFrom? i = some (packagesFrom, systemFrom) := by
    rw [recordedFrom?, hstage]
    rfl
  have hwhole : packagesFrom = systemFrom := honce.whole i _ _ hrecorded
  refine ⟨systemFrom, ?_, ?_, Nat.le_trans hle h.position_le⟩
  · rw [systemFrom?, hstage]
    rfl
  · rw [hrecorded, hwhole]

/-- Events that read late have each a sample of its own among the last ones. -/
theorem RecordsOnce.card_le (honce : c.RecordsOnce) (h : c.Sound config samples)
    (hended : ∀ e ∈ c.events, e.stage.isEnded = true) {least : Nat} {late : Finset Nat}
    (hlate : LateFrom least late c) (hsubset : late ⊆ Finset.range c.events.length) :
    late.card + least ≤ c.events.length + 1 := by
  have hrecord : ∀ k ∈ late, ∃ sample, c.systemFrom? k = some sample ∧
      c.recordedFrom? k = some (sample, sample) ∧ sample ≤ c.events.length := by
    intro k hk
    exact h.exists_record hended honce (Finset.mem_range.mp (hsubset hk))
  have hmaps : ∀ k ∈ late, (c.systemFrom? k).getD 0 ∈ Finset.Icc least c.events.length := by
    intro k hk
    obtain ⟨sample, hsystem, -, hle⟩ := hrecord k hk
    rw [hsystem, Option.getD_some, Finset.mem_Icc]
    exact ⟨hlate.read k hk sample hsystem, hle⟩
  have hinjective : Set.InjOn (fun k => (c.systemFrom? k).getD 0) late := by
    intro x hx y hy heq
    obtain ⟨sample, hsystem, hrecorded, -⟩ := hrecord x hx
    obtain ⟨sample', hsystem', hrecorded', -⟩ := hrecord y hy
    simp only [hsystem, hsystem', Option.getD_some] at heq
    rw [← heq] at hrecorded'
    exact honce.once x y _ hrecorded hrecorded'
  have hcard := Finset.card_le_card_of_injOn _ hmaps hinjective
  have hreached := Nat.le_trans hlate.reached h.position_le
  rw [Nat.card_Icc] at hcard
  omega

def unread (c : Concurrent) : Finset Nat :=
  (Finset.range c.events.length).filter fun i => c.systemFrom? i = none

/-- All but one of the events that have started, or fewer, have read. -/
theorem Sound.length_lt (h : c.Sound config samples) {stage : Stage} (hi : c.stage? i = some stage)
    (hreading : stage.isReading = true) : c.events.length < c.unread.card + c.position := by
  let read := (Finset.range c.events.length).filter fun k => ¬ c.systemFrom? k = none
  have hsubset : read ⊆ c.started.erase i := by
    intro k hk
    have hsome := (Finset.mem_filter.mp hk).2
    refine Finset.mem_erase.mpr ⟨?_, mem_started.mpr ?_⟩
    · rintro rfl
      refine hsome ?_
      rw [systemFrom?, hi]
      cases stage <;> first | rfl | cases hreading
    · cases hstage : c.stage? k with
      | none => exact absurd (by rw [systemFrom?, hstage]; rfl) hsome
      | some stage =>
        cases stage with
        | waiting => exact absurd (by rw [systemFrom?, hstage]; rfl) hsome
        | _ => exact ⟨_, rfl, rfl⟩
  have hmem : i ∈ c.started := by
    refine mem_started.mpr ⟨stage, hi, ?_⟩
    cases stage <;> first | rfl | cases hreading
  have hread : read.card < c.position := by
    rw [h.counted]
    exact Nat.lt_of_le_of_lt (Finset.card_le_card hsubset) (Finset.card_erase_lt_of_mem hmem)
  have hsplit : c.unread.card + read.card = c.events.length := by
    have hsplit := Finset.card_filter_add_card_filter_not (s := Finset.range c.events.length)
      (fun k => c.systemFrom? k = none)
    rw [Finset.card_range] at hsplit
    exact hsplit
  omega

theorem Sound.lateFrom_turn (h : c.Sound config samples) (hwaiting : c.stage? i = some .waiting) :
    LateFrom (c.position + 1) c.unread (c.turn i) := by
  obtain ⟨hposition, hstages⟩ := h.turn_of_waiting hwaiting
  refine ⟨hposition.ge, fun k hk systemFrom hsystem => ?_⟩
  rw [systemFrom?, hstages] at hsystem
  by_cases hki : k = i
  · rw [if_pos hki] at hsystem
    cases hsystem
  · rw [if_neg hki] at hsystem
    have hnone : c.systemFrom? k = none := (Finset.mem_filter.mp hk).2
    exact absurd (hnone.symm.trans hsystem) (by simp)

/-- An event that starts while another one is reading leaves more events to
read than samples for them. -/
theorem Sound.startsApart_of_recordsOnce : ∀ (schedule : List Nat) {c : Concurrent},
    c.Sound config samples → (∀ e ∈ (c.run schedule).events, e.stage.isEnded = true) →
    (c.run schedule).RecordsOnce → c.startsApart schedule = true
  | [], _, _, _, _ => rfl
  | i :: rest, c, h, hended, honce => by
    refine (c.startsApart_cons i rest).mpr ⟨fun hwaiting j stage hj => ?_,
      startsApart_of_recordsOnce rest (h.turn i) hended honce⟩
    by_contra hreading
    have hlength : (c.run (i :: rest)).events.length = c.events.length := c.length_run (i :: rest)
    have hsubset : c.unread ⊆ Finset.range (c.run (i :: rest)).events.length := by
      rw [hlength]
      exact Finset.filter_subset _ _
    have hlate := (h.lateFrom_turn hwaiting).run rest (h.turn i)
    have hfew := honce.card_le (h.run (i :: rest)) hended hlate hsubset
    have hmany := h.length_lt hj (by simpa using hreading)
    omega

/-! ## From startup -/

variable {s : Server} {events : List Event}

theorem stage?_ofEvents {stage : Stage} (h : (ofEvents s events).stage? i = some stage) :
    stage = .waiting := by
  obtain ⟨e, he, rfl⟩ := Option.map_eq_some_iff.mp h
  obtain ⟨event, -, rfl⟩ := List.mem_map.mp (List.mem_of_getElem? he)
  rfl

theorem map_event_ofEvents (s : Server) (events : List Event) :
    (ofEvents s events).events.map (·.event) = events := by
  unfold ofEvents
  rw [List.map_map]
  exact List.map_id events

theorem inOrder_ofEvents (s : Server) (events : List Event) : (ofEvents s events).InOrder := by
  have hnone : ∀ i, (ofEvents s events).number? i = none := by
    intro i
    unfold number?
    cases hstage : (ofEvents s events).stage? i with
    | none => rfl
    | some stage =>
      cases stage?_ofEvents hstage
      rfl
  constructor
  · intro i stage hstage
    cases stage?_ofEvents hstage
    trivial
  · intro i k hk
    rw [hnone] at hk
    cases hk
  · intro i j k hk
    rw [hnone] at hk
    cases hk

theorem sound_ofEvents {data : ReplayData} {startedAt : Timestamp}
    (hfew : events.length < data.samples.length) :
    (ofEvents (Server.booted config data startedAt) events).Sound config data.samples := by
  have hsource : (Server.booted config data startedAt).source = .ofData data := Server.source_booted
  constructor
  · exact Server.config_booted
  · exact congrArg ReplaySource.samples hsource
  · rw [ofEvents, List.length_map]
    exact hfew
  · have hnone : (ofEvents (Server.booted config data startedAt) events).started = ∅ := by
      refine Finset.eq_empty_of_forall_notMem fun i hi => ?_
      obtain ⟨stage, hstage, hstarted⟩ := mem_started.mp hi
      cases stage?_ofEvents hstage
      cases hstarted
    rw [hnone, Finset.card_empty]
    exact congrArg ReplaySource.position hsource
  · intro e he
    obtain ⟨event, -, rfl⟩ := List.mem_map.mp he
    trivial

end Concurrent

/-- **Recorded once.** Let a server's events, fewer than its samples, take their
steps in any order. Each reads samples that there are and, once it ends, has
added the record computed from them. If no event starts while another one is
reading, every record is computed from one sample and no two from the same; if
all of them end, this is so only then. -/
theorem recorded_once_iff (config : Config) (data : ReplayData) (startedAt : Timestamp) (s : Server)
    (hstart : Server.start config (.ok data) startedAt = .ok s) (events : List Event)
    (hfew : events.length < data.samples.length) (schedule : List Nat) :
    let before := Concurrent.ofEvents s events
    let after := before.run schedule
    after.events.map (·.event) = events ∧
      (∀ e ∈ after.events, e.Faithful config data.samples after.position) ∧
      (before.startsApart schedule = true → after.RecordsOnce) ∧
      ((∀ e ∈ after.events, e.stage.isEnded = true) →
        after.RecordsOnce → before.startsApart schedule = true) := by
  intro before after
  obtain ⟨-, rfl⟩ := Server.start_eq_ok.mp hstart
  have hsound : before.Sound config data.samples := Concurrent.sound_ofEvents hfew
  have horder : before.InOrder := Concurrent.inOrder_ofEvents _ events
  refine ⟨?_, (hsound.run schedule).faithful, fun hapart => ?_, ?_⟩
  · rw [Concurrent.map_event_run, Concurrent.map_event_ofEvents]
  · exact (horder.run schedule hsound hapart).recordsOnce
  · exact Concurrent.Sound.startsApart_of_recordsOnce schedule hsound

theorem recorded_once_iff_apart :
    let data : ReplayData := ⟨"1", "", [{}, {}, {}]⟩
    let events : List Event := [⟨.wakeUp, .epoch, .normal⟩, ⟨.periodic, .epoch, .normal⟩]
    ∃ s, Server.start {} (.ok data) .epoch = .ok s ∧ events.length < data.samples.length ∧
      (Concurrent.ofEvents s events).startsApart [0, 0, 0, 1, 0, 1, 1, 1] = true ∧
      ((Concurrent.ofEvents s events).run [0, 0, 0, 1, 0, 1, 1, 1]).RecordsOnce := by
  intro data events
  have hstart : Server.start {} (.ok data) .epoch = .ok (Server.booted {} data .epoch) :=
    Server.start_eq_ok.mpr ⟨by rfl, rfl⟩
  have hfew : events.length < data.samples.length := by decide
  have hapart : (Concurrent.ofEvents (Server.booted {} data .epoch) events).startsApart
      [0, 0, 0, 1, 0, 1, 1, 1] = true := by decide +kernel
  have honce := (recorded_once_iff {} data .epoch _ hstart events hfew [0, 0, 0, 1, 0, 1, 1, 1]).2.2.1
  exact ⟨_, hstart, hfew, hapart, honce hapart⟩

/-- Of two events that overlap, both read the third sample; or the first reads
the packages of the second sample and the system counters of the third. -/
theorem recorded_twice :
    let data : ReplayData := ⟨"1", "", [{}, {}, {}]⟩
    let events : List Event := [⟨.wakeUp, .epoch, .normal⟩, ⟨.periodic, .epoch, .normal⟩]
    ∃ s, Server.start {} (.ok data) .epoch = .ok s ∧ events.length < data.samples.length ∧
      ¬ ((Concurrent.ofEvents s events).run [0, 1, 0, 0, 0, 1, 1, 1]).RecordsOnce ∧
      ¬ ((Concurrent.ofEvents s events).run [0, 0, 1, 0, 0, 1, 1, 1]).RecordsOnce := by
  intro data events
  have hstart : Server.start {} (.ok data) .epoch = .ok (Server.booted {} data .epoch) :=
    Server.start_eq_ok.mpr ⟨by rfl, rfl⟩
  refine ⟨_, hstart, by decide, fun honce => ?_, fun honce => ?_⟩
  · have hsame := honce.once 0 1 (2, 2) (by decide +kernel) (by decide +kernel)
    cases hsame
  · have hwhole := honce.whole 0 1 2 (by decide +kernel)
    cases hwhole

end UsageWatch
