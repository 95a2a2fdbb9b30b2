import Mathlib.Data.List.TakeWhile
import Mathlib.Order.Defs.LinearOrder
import UsageWatch.Proofs.CollectionHistory
import UsageWatch.Proofs.SessionStore
import UsageWatch.Proofs.Telemetry
/-!
# Sweeps in sequence

Sweeps at two times, whichever comes first, leave what a single sweep at the
later one leaves, and report as many records in all (`sweeps_compose`). This
asks nothing of the records, which may be in any order. So a heartbeat at the
time of another one or before it changes nothing.
-/

namespace UsageWatch

/-- Sweeps of `s` at `a` and at `b`, in either order, against one at the later time. -/
structure SweepsCompose {σ : Type} (sweep : σ → Timestamp → σ) (expired : σ → Timestamp → Nat)
    (s : σ) (a b : Timestamp) : Prop where
  left_eq : sweep (sweep s a) b = sweep s (max a b)
  left_swapped : sweep (sweep s b) a = sweep s (max a b)
  expired_add : expired s a + expired (sweep s a) b = expired s (max a b)
  expired_swapped : expired s b + expired (sweep s b) a = expired s (max a b)
  repeated : b ≤ a → sweep (sweep s a) b = sweep s a ∧ expired (sweep s a) b = 0

/-! ## The later time -/

instance : LinearOrder Timestamp where
  le_refl t := Int.le_refl t.nanos
  le_trans _ _ _ := Int.le_trans
  le_antisymm _ _ hab hba := Timestamp.eq_of_nanos (Int.le_antisymm hab hba)
  le_total a b := Int.le_total a.nanos b.nanos
  lt_iff_le_not_ge _ _ := Int.lt_iff_le_and_not_ge
  toDecidableLE := inferInstance

/-- If what is left agrees and every sweep accounts for what it drops, the reports agree too. -/
theorem SweepsCompose.of_left {σ : Type} {sweep : σ → Timestamp → σ} {expired : σ → Timestamp → Nat}
    (held : σ → Nat) (haccount : ∀ s now, held (sweep s now) + expired s now = held s)
    (hleft : ∀ s a b, sweep (sweep s a) b = sweep s (max a b)) (s : σ) (a b : Timestamp) :
    SweepsCompose sweep expired s a b := by
  have hadd : ∀ a b, expired s a + expired (sweep s a) b = expired s (max a b) := by
    intro a b
    have hfirst := haccount s a
    have hsecond := haccount (sweep s a) b
    have hsingle := haccount s (max a b)
    rw [hleft] at hsecond
    omega
  refine ⟨hleft s a b, ?_, hadd a b, ?_, fun hle => ?_⟩
  · rw [hleft, max_comm]
  · rw [hadd, max_comm]
  · have hcount := hadd a b
    rw [max_eq_left hle] at hcount
    exact ⟨by rw [hleft, max_eq_left hle], by omega⟩

/-! ## Collections -/

section
variable {α : Type} {p q : α → Bool}

theorem dropWhile_dropWhile_of_imp (h : ∀ a, p a = true → q a = true) (l : List α) :
    (l.dropWhile p).dropWhile q = l.dropWhile q := by
  induction l with
  | nil => rfl
  | cons a l ih =>
    by_cases ha : p a = true
    · rw [List.dropWhile_cons_of_pos ha, List.dropWhile_cons_of_pos (h a ha), ih]
    · rw [List.dropWhile_cons_of_neg ha]

theorem dropWhile_of_dropWhile_of_imp (h : ∀ a, p a = true → q a = true) (l : List α) :
    (l.dropWhile q).dropWhile p = l.dropWhile q := by
  refine List.dropWhile_eq_self_iff.mpr fun hpos hp => ?_
  exact List.dropWhile_get_zero_not q l hpos (h _ hp)

end

namespace Collection

/-- What has expired by an earlier time has expired by a later one. -/
theorem recent_recent (retention : Duration) (a b : Timestamp) (records : List Record) :
    recent retention b (recent retention a records) = recent retention (max a b) records := by
  have hexpired : ∀ {t now : Timestamp}, t ≤ now → ∀ r : Record,
      (!r.isWithin retention t) = true → (!r.isWithin retention now) = true := by
    intro t now hle r hr
    cases hnow : r.isWithin retention now with
    | false => rfl
    | true => rwa [Record.isWithin_mono hle hnow] at hr
  simp only [recent_eq_dropWhile]
  rcases le_total a b with h | h
  · rw [max_eq_right h]
    exact dropWhile_dropWhile_of_imp (hexpired h) records
  · rw [max_eq_left h]
    exact dropWhile_of_dropWhile_of_imp (hexpired h) records

theorem sweep_sweep (c : Collection) (a b : Timestamp) : (c.sweep a).sweep b = c.sweep (max a b) := by
  by_cases hwindow : ∃ retention, c.policy = .window retention
  · obtain ⟨retention, hpolicy⟩ := hwindow
    rw [sweep_of_window ((c.policy_sweep a).trans hpolicy), sweep_of_window hpolicy,
      sweep_of_window hpolicy, recent_recent]
  · have hother := not_exists.mp hwindow
    rw [sweep_eq_self hother, sweep_eq_self hother, sweep_eq_self hother]

theorem isEmpty_sweep {c : Collection} (h : c.isEmpty = true) (now : Timestamp) :
    (c.sweep now).isEmpty = true := by
  unfold isEmpty at *
  rw [List.isEmpty_iff] at *
  have hsuffix := c.sweep_suffix now
  rw [h] at hsuffix
  exact List.suffix_nil.mp hsuffix

end Collection

/-! ## Sessions -/

namespace Session

def swept (session : Session) (now : Timestamp) : Session :=
  { session with collection := session.collection.sweep now }

theorem swept_swept (session : Session) (a b : Timestamp) :
    (session.swept a).swept b = session.swept (max a b) := by
  simp only [swept, Collection.sweep_sweep]

/-- A session emptied by the first of two sweeps would have been emptied by the single one. -/
theorem isEmpty_swept_max {session : Session} {a : Timestamp}
    (h : (session.swept a).collection.isEmpty = true) (b : Timestamp) :
    (session.swept (max a b)).collection.isEmpty = true := by
  rw [← swept_swept]
  exact Collection.isEmpty_sweep h b

end Session

namespace SessionStore

theorem sweep_eq_swept (s : SessionStore) (now : Timestamp) :
    s.sweep now =
      { s with sessions := (s.sessions.map (·.swept now)).filter (!·.collection.isEmpty) } := rfl

theorem sweep_sweep (s : SessionStore) (a b : Timestamp) : (s.sweep a).sweep b = s.sweep (max a b) := by
  have hkept : ∀ session ∈ s.sessions, (!(session.swept (max a b)).collection.isEmpty &&
      !(session.swept a).collection.isEmpty) = !(session.swept (max a b)).collection.isEmpty := by
    intro session _
    by_cases hempty : (session.swept a).collection.isEmpty = true
    · simp [Session.isEmpty_swept_max hempty b]
    · simp [hempty]
  simp only [sweep_eq_swept, List.filter_map, List.map_map, List.filter_filter, Function.comp_def,
    Session.swept_swept]
  rw [List.filter_congr hkept]

end SessionStore

/-! ## Heartbeats -/

theorem Caches.sweep_sweep (c : Caches) (a b : Timestamp) : (c.sweep a).sweep b = c.sweep (max a b) := by
  simp only [sweep, Collection.sweep_sweep, SessionStore.sweep_sweep]

theorem Metrics.recordAll_zero {gone : CollectionKind → Nat} (h : ∀ k, gone k = 0) (m : Metrics) :
    ∀ kinds, m.recordAll kinds gone = m
  | [] => rfl
  | j :: kinds => by rw [recordAll_cons, h j, recordEvictions, if_pos rfl, recordAll_zero h m kinds]

theorem Caches.sweepsCompose (c : Caches) (a b : Timestamp) (k : CollectionKind) :
    SweepsCompose sweep (expired · · k) c a b :=
  .of_left (·.recordCount k) (fun c now => c.recordCount_sweep_add_expired now k) sweep_sweep c a b

theorem Profiler.heartbeat_heartbeat (p : Profiler) {first second : Event}
    (hfirst : first.target = .periodic) (hsecond : second.target = .periodic)
    (hle : second.time ≤ first.time) : (p.heartbeat first).heartbeat second = p.heartbeat first := by
  obtain ⟨_, a, _⟩ := first
  obtain ⟨_, b, _⟩ := second
  cases hfirst
  cases hsecond
  have hrepeated k := (p.caches.sweepsCompose a b k).repeated hle
  have hcaches : (p.caches.sweep a).sweep b = p.caches.sweep a := (hrepeated .bootTime).1
  have hmetrics (m : Metrics) : m.recordAll CollectionKind.all ((p.caches.sweep a).expired b) = m :=
    Metrics.recordAll_zero (fun k => (hrepeated k).2) m _
  cases hmetered : p.metrics with
  | none => simp only [heartbeat, hcaches, hmetered, Option.map_none]
  | some m =>
    simp only [heartbeat, hcaches, hmetered, Option.map_some]
    exact congrArg (fun m => { p with caches := p.caches.sweep a, metrics := some m }) (hmetrics _)

/-- **Sweeps.** Of whatever a collection, a session store or the caches of a
profiler hold, sweeps at two times leave what one at the later time leaves, and
their reports add up to its report. So a heartbeat no later than another one
leaves the profiler as it is, its metrics included. -/
theorem sweeps_compose :
    (∀ (c : Collection) (a b : Timestamp), SweepsCompose Collection.sweep Collection.expired c a b) ∧
      (∀ (s : SessionStore) (a b : Timestamp),
        SweepsCompose SessionStore.sweep SessionStore.expired s a b) ∧
      (∀ (c : Caches) (a b : Timestamp) (k : CollectionKind),
        SweepsCompose Caches.sweep (Caches.expired · · k) c a b) ∧
      ∀ (p : Profiler) (first second : Event), first.target = .periodic →
        second.target = .periodic → second.time ≤ first.time →
        (p.heartbeat first).heartbeat second = p.heartbeat first := by
  refine ⟨fun c a b => ?_, fun s a b => ?_, Caches.sweepsCompose, ?_⟩
  · exact .of_left Collection.size Collection.size_sweep_add_expired Collection.sweep_sweep c a b
  · exact .of_left SessionStore.recordCount SessionStore.recordCount_sweep_add_expired
      SessionStore.sweep_sweep s a b
  · intro p first second hfirst hsecond hle
    exact p.heartbeat_heartbeat hfirst hsecond hle

/-- The start of the window is out of range at the earliest time of all, and a
heartbeat of an hour and a second after the epoch is followed by one at the epoch. -/
theorem sweeps_compose_early :
    let earliest : Timestamp := ⟨-0x8000000000000000 * 1000000000, by decide, by decide⟩
    let past : Timestamp := ⟨3601000000000, by decide, by decide⟩
    let hour := Duration.ofSeconds 3600
    let c : Collection := { policy := .window hour, records := [{ time := .epoch }, { time := past }] }
    let p : Profiler := { Profiler.fresh {} true with
      caches := { Caches.ofConfig {} with bootTime := c } }
    let first : Event := ⟨.periodic, past, .normal⟩
    let second : Event := ⟨.periodic, .epoch, .normal⟩
    earliest.earlier? hour = none ∧
      c.expired past + (c.sweep past).expired earliest = c.expired (max past earliest) ∧
      c.expired past = 1 ∧ second.time ≤ first.time ∧
      (p.heartbeat first).recordCount .bootTime = 1 ∧
      (p.heartbeat first).heartbeat second = p.heartbeat first := by
  intro earliest past hour c p first second
  obtain ⟨hcollections, -, -, hheartbeats⟩ := sweeps_compose
  have hle : second.time ≤ first.time := by decide
  exact ⟨by decide, (hcollections c past earliest).expired_add, by decide, hle, by decide,
    hheartbeats p first second rfl rfl hle⟩

end UsageWatch
