import Mathlib.Data.List.Induction
import UsageWatch.Proofs.CacheInput
/-!
# What the metrics say about the caches

Every record that was ever collected is either still held or counted as
evicted, on whatever path it left: by age, for room, with its session, in a
heartbeat or in a clear. After each operation the published counts are those of
the caches (`metrics_conserve`).
-/

namespace UsageWatch

/-! ## Accounts of the caches -/

namespace Caches

theorem recordCount_sweep_add_expired (c : Caches) (now : Timestamp) (k : CollectionKind) :
    (c.sweep now).recordCount k + c.expired now k = c.recordCount k := by
  cases k with
  | bootTime => exact c.bootTime.size_sweep_add_expired now
  | wakeUp => exact c.wakeUp.size_sweep_add_expired now
  | userSwitch => exact c.userSwitch.recordCount_sweep_add_expired now
  | periodic | custom => rfl

theorem recordCount_append_add_displaced (c : Caches) (target : Target) (r : Record)
    (now : Timestamp) :
    (c.append target r now).recordCount target.kind + c.displaced target now =
      c.recordCount target.kind + 1 := by
  cases target with
  | bootTime => exact c.bootTime.size_append_add_displaced r now
  | wakeUp => exact c.wakeUp.size_append_add_displaced r now
  | userSwitch origin target =>
    exact c.userSwitch.recordCount_append_add_displaced origin target r now
  | periodic => exact c.periodic.size_append_add_displaced r now
  | custom filter => exact c.custom.size_append_add_displaced r now

theorem recordCount_append_of_ne (c : Caches) {target : Target} {k : CollectionKind}
    (h : k ≠ target.kind) (r : Record) (now : Timestamp) :
    (c.append target r now).recordCount k = c.recordCount k := by
  cases target <;> cases k <;> first | rfl | exact absurd rfl h

theorem recordCount_clear (c : Caches) (j k : CollectionKind) :
    (c.clear j).recordCount k = if k = j then 0 else c.recordCount k := by
  cases j <;> cases k <;> rfl

theorem recordCount_foldl_clear (k : CollectionKind) : ∀ (kinds : List CollectionKind) (c : Caches),
    (kinds.foldl clear c).recordCount k = if k ∈ kinds then 0 else c.recordCount k
  | [], _ => rfl
  | j :: kinds, c => by
    rw [List.foldl_cons, recordCount_foldl_clear k kinds, recordCount_clear]
    by_cases hk : k ∈ kinds <;> by_cases hj : k = j <;> simp [hk, hj]

end Caches

/-! ## Reading metrics -/

def PerKind.reading {α : Type} [OfNat α 0] (t : PerKind (Option α)) (k : CollectionKind) : α :=
  (t.get k).getD 0

namespace Metrics

theorem reading_count (t : PerKind (Option UInt64)) (j k : CollectionKind) (n : Nat) :
    (count t j n).reading k = t.reading k + if k = j then UInt64.ofNat n else 0 := by
  unfold count PerKind.modify PerKind.reading
  by_cases h : k = j
  · subst h
    rw [PerKind.get_set_self, Option.getD_some, if_pos rfl]
  · rw [PerKind.get_set_of_ne t _ h, if_neg h, UInt64.add_zero]

def recordAll (m : Metrics) (kinds : List CollectionKind) (gone : CollectionKind → Nat) : Metrics :=
  kinds.foldl (fun m k => m.recordEvictions k (gone k)) m

theorem recordAll_cons (m : Metrics) (j : CollectionKind) (kinds : List CollectionKind)
    (gone : CollectionKind → Nat) :
    m.recordAll (j :: kinds) gone = (m.recordEvictions j (gone j)).recordAll kinds gone := rfl

theorem reading_recordEvictions (m : Metrics) (j k : CollectionKind) (n : Nat) :
    (m.recordEvictions j n).evicted.reading k =
      m.evicted.reading k + if k = j then UInt64.ofNat n else 0 := by
  unfold recordEvictions
  by_cases hn : n = 0
  · subst hn
    rw [if_pos rfl]
    split <;> exact (UInt64.add_zero _).symm
  · rw [if_neg hn]
    exact reading_count m.evicted j k n

theorem recordEvictions_collections (m : Metrics) (k : CollectionKind) (n : Nat) :
    (m.recordEvictions k n).collections = m.collections := by
  unfold recordEvictions; split <;> rfl

theorem recordEvictions_failures (m : Metrics) (k : CollectionKind) (n : Nat) :
    (m.recordEvictions k n).failures = m.failures := by
  unfold recordEvictions; split <;> rfl

theorem reading_recordFailure (m : Metrics) (j k : CollectionKind) :
    (m.recordFailure j).failures.reading k = m.failures.reading k + if k = j then UInt64.ofNat 1 else 0 :=
  reading_count m.failures j k 1

/-! ## The balance -/

/-- The counters agree with what was held, collected and failed: whatever is no
longer held is counted as evicted. Counters are words, so they are the numbers
up to a multiple of 2^64. -/
structure Balanced (m : Metrics) (held collected failed : CollectionKind → Nat) : Prop where
  collections : ∀ k, m.collections.reading k = UInt64.ofNat (collected k)
  failures : ∀ k, m.failures.reading k = UInt64.ofNat (failed k)
  evicted : ∀ k, ∃ gone, collected k = held k + gone ∧ m.evicted.reading k = UInt64.ofNat gone

variable {m : Metrics} {held collected failed : CollectionKind → Nat}

theorem balanced_new : Balanced {} (fun _ => 0) (fun _ => 0) (fun _ => 0) where
  collections k := by cases k <;> rfl
  failures k := by cases k <;> rfl
  evicted k := ⟨0, rfl, by cases k <;> rfl⟩

/-- An eviction moves records from the held ones to the evicted ones. -/
theorem Balanced.recordEvictions (h : m.Balanced held collected failed) (j : CollectionKind) {n : Nat}
    {held' : CollectionKind → Nat} (hj : held' j + n = held j) (hne : ∀ k, k ≠ j → held' k = held k) :
    (m.recordEvictions j n).Balanced held' collected failed where
  collections k := by rw [recordEvictions_collections]; exact h.collections k
  failures k := by rw [recordEvictions_failures]; exact h.failures k
  evicted k := by
    obtain ⟨gone, hsum, hgone⟩ := h.evicted k
    rw [reading_recordEvictions, hgone]
    by_cases hk : k = j
    · subst hk
      refine ⟨gone + n, by omega, ?_⟩
      rw [if_pos rfl, UInt64.ofNat_add]
    · refine ⟨gone, by rw [hne k hk, hsum], ?_⟩
      rw [if_neg hk, UInt64.add_zero]

theorem Balanced.recordAll {gone : CollectionKind → Nat} {held' : CollectionKind → Nat} :
    ∀ {kinds : List CollectionKind} {m : Metrics} {held : CollectionKind → Nat},
      m.Balanced held collected failed → kinds.Nodup →
      (∀ k ∈ kinds, held' k + gone k = held k) → (∀ k, k ∉ kinds → held' k = held k) →
      (m.recordAll kinds gone).Balanced held' collected failed
  | [], m, held, h, _, _, hout => by
    have hheld : held' = held := funext fun k => hout k List.not_mem_nil
    rw [hheld]
    exact h
  | j :: kinds, m, held, h, hnodup, hin, hout => by
    obtain ⟨hj, hnodup⟩ := List.nodup_cons.mp hnodup
    -- the records of `j` leave first
    let between : CollectionKind → Nat := fun k => if k = j then held' k else held k
    have hfirst : (m.recordEvictions j (gone j)).Balanced between collected failed := by
      refine h.recordEvictions j ?_ fun k hk => if_neg hk
      rw [show between j = held' j from if_pos rfl]
      exact hin j List.mem_cons_self
    rw [recordAll_cons]
    refine hfirst.recordAll hnodup (fun k hk => ?_) fun k hk => ?_
    · have hne : k ≠ j := fun e => hj (e ▸ hk)
      rw [show between k = held k from if_neg hne]
      exact hin k (List.mem_cons_of_mem j hk)
    · by_cases hkj : k = j
      · rw [show between k = held' k from if_pos hkj]
      · rw [show between k = held k from if_neg hkj]
        exact hout k fun hmem => (List.mem_cons.mp hmem).elim hkj hk

theorem Balanced.recordCollection (h : m.Balanced held collected failed) (j : CollectionKind)
    (r : Record) :
    (m.recordCollection j r).Balanced (fun k => held k + if k = j then 1 else 0)
      (fun k => collected k + if k = j then 1 else 0) failed where
  collections k := by
    have hcount : (m.recordCollection j r).collections.reading k =
        m.collections.reading k + if k = j then UInt64.ofNat 1 else 0 :=
      reading_count m.collections j k 1
    rw [hcount, h.collections, UInt64.ofNat_add]
    split <;> rfl
  failures k := h.failures k
  evicted k := by
    obtain ⟨gone, hsum, hgone⟩ := h.evicted k
    exact ⟨gone, by omega, hgone⟩

theorem Balanced.recordFailure (h : m.Balanced held collected failed) (j : CollectionKind) :
    (m.recordFailure j).Balanced held collected fun k => failed k + if k = j then 1 else 0 where
  collections k := h.collections k
  failures k := by
    rw [reading_recordFailure, h.failures, UInt64.ofNat_add]
    split <;> rfl
  evicted k := h.evicted k

/-! ## What is published -/

structure Shows (m : Metrics) (c : Caches) : Prop where
  cached : ∀ k, m.cached.reading k = Int64.ofNat (min (c.recordCount k) Counter.signedLimit)
  sessions : m.sessions = Int64.ofNat c.userSwitch.size

theorem Balanced.publish (h : m.Balanced held collected failed) (c : Caches) :
    (c.publish m).Balanced held collected failed where
  collections k := h.collections k
  failures k := h.failures k
  evicted k := h.evicted k

theorem shows_publish (m : Metrics) (c : Caches) : (c.publish m).Shows c where
  cached k := by cases k <;> rfl
  sessions := rfl

end Metrics

/-! ## Operations -/

namespace Profiler

variable {p : Profiler} {collected failed : CollectionKind → Nat}

def Accounts (p : Profiler) (collected failed : CollectionKind → Nat) : Prop :=
  ∃ m, p.metrics = some m ∧ m.Balanced p.caches.recordCount collected failed ∧ m.Shows p.caches

theorem accounts_fresh (config : Config) :
    (fresh config true).Accounts (fun _ => 0) (fun _ => 0) := by
  refine ⟨{}, rfl, ?_, ?_⟩
  · have hnone : (fresh config true).caches.recordCount = fun _ => 0 := by
      funext k; cases k <;> rfl
    rw [hnone]
    exact Metrics.balanced_new
  · exact ⟨fun k => by cases k <;> rfl, rfl⟩

theorem recordCount_clearKinds (p : Profiler) (kinds : List CollectionKind) (k : CollectionKind) :
    (p.clearKinds kinds).caches.recordCount k = if k ∈ kinds then 0 else p.caches.recordCount k :=
  Caches.recordCount_foldl_clear k kinds p.caches

theorem Accounts.clearKinds (h : p.Accounts collected failed) {kinds : List CollectionKind}
    (hnodup : kinds.Nodup) : (p.clearKinds kinds).Accounts collected failed := by
  obtain ⟨m, hm, hbalanced, _⟩ := h
  refine ⟨(p.clearKinds kinds).caches.publish (m.recordAll kinds p.recordCount), ?_, ?_, ?_⟩
  · unfold Profiler.clearKinds
    rw [hm]
    rfl
  · refine (hbalanced.recordAll hnodup (fun k hk => ?_) fun k hk => ?_).publish _
    · rw [recordCount_clearKinds, if_pos hk, Nat.zero_add]
      rfl
    · rw [recordCount_clearKinds, if_neg hk]
  · exact Metrics.shows_publish _ _

theorem Accounts.recordFailure (h : p.Accounts collected failed) (j : CollectionKind) :
    (p.recordFailure j).Accounts collected fun k => failed k + if k = j then 1 else 0 := by
  obtain ⟨m, hm, hbalanced, hshows⟩ := h
  refine ⟨m.recordFailure j, ?_, hbalanced.recordFailure j, hshows.cached, hshows.sessions⟩
  unfold Profiler.recordFailure
  rw [hm]
  rfl

/-- A heartbeat balances but does not publish. -/
theorem Accounts.heartbeat (h : p.Accounts collected failed) (event : Event) :
    ∃ m, (p.heartbeat event).metrics = some m ∧
      m.Balanced (p.heartbeat event).caches.recordCount collected failed := by
  obtain ⟨m, hm, hbalanced, _⟩ := h
  unfold Profiler.heartbeat
  split
  · refine ⟨m.recordAll CollectionKind.all (p.caches.expired event.time), ?_, ?_⟩
    · rw [hm]
      rfl
    · exact hbalanced.recordAll (by decide)
        (fun k _ => p.caches.recordCount_sweep_add_expired event.time k)
        fun k hk => absurd (CollectionKind.mem_all k) hk
  · exact ⟨m, hm, hbalanced⟩

theorem accounts_append {m : Metrics} (hm : p.metrics = some m)
    (h : m.Balanced p.caches.recordCount collected failed) (event : Event) (r : Record) :
    (p.append event r).Accounts
      (fun k => collected k + if k = event.target.kind then 1 else 0) failed := by
  let caches := p.caches.append event.target r event.time
  let counted := (m.recordCollection event.target.kind r).recordEvictions event.target.kind
    (p.caches.displaced event.target event.time)
  refine ⟨caches.publish counted, ?_, ?_, Metrics.shows_publish counted caches⟩
  · unfold Profiler.append
    rw [hm]
    rfl
  · -- the record counts as held before any other leaves
    refine ((h.recordCollection event.target.kind r).recordEvictions event.target.kind
      ?_ fun k hk => ?_).publish caches
    · rw [if_pos rfl]
      exact p.caches.recordCount_append_add_displaced event.target r event.time
    · rw [if_neg hk, Nat.add_zero]
      exact p.caches.recordCount_append_of_ne hk r event.time

end Profiler

def Operation.succeeds (k : CollectionKind) : Operation → Bool
  | .collect event (.ok _) _ => k = event.target.kind
  | _ => false

def Operation.fails (k : CollectionKind) : Operation → Bool
  | .collect event (.error _) _ => k = event.target.kind
  | _ => false

namespace ProfilerRun

variable {collected failed : CollectionKind → Nat}

theorem accounts_perform {r : ProfilerRun} (h : r.profiler.Accounts collected failed)
    (operation : Operation) :
    (r.perform operation).1.profiler.Accounts
      (fun k => collected k + if operation.succeeds k then 1 else 0)
      (fun k => failed k + if operation.fails k then 1 else 0) := by
  cases operation with
  | collect event sampled keepsUsage =>
    cases sampled with
    | error e =>
      simp only [Operation.fails, decide_eq_true_eq]
      exact h.recordFailure event.target.kind
    | ok sample =>
      obtain ⟨m, hm, hbalanced⟩ := h.heartbeat event
      simp only [Operation.succeeds, decide_eq_true_eq]
      exact Profiler.accounts_append hm hbalanced event _
  | systemStartup => exact h.clearKinds (by decide)
  | terminate => exact h.clearKinds (by decide)
  | clearCustom => exact h.clearKinds (by decide)
  | _ => exact h

theorem accounts_after (config : Config) (operations : List Operation) :
    (after config true operations).profiler.Accounts
      (fun k => operations.countP (·.succeeds k)) (fun k => operations.countP (·.fails k)) := by
  induction operations using List.reverseRecOn with
  | nil => exact Profiler.accounts_fresh config
  | append_singleton operations operation ih =>
    rw [after_concat]
    simpa only [List.countP_append, List.countP_singleton] using accounts_perform ih operation

end ProfilerRun

/-! ## Conservation -/

/-- As long as the numbers fit their words, they add up as numbers. -/
theorem Metrics.Balanced.toNat_collections {m : Metrics} {held collected failed : CollectionKind → Nat}
    (h : m.Balanced held collected failed) {k : CollectionKind}
    (hcached : m.cached.reading k = Int64.ofNat (min (held k) Counter.signedLimit))
    (hfits : collected k ≤ Counter.signedLimit) :
    ((m.collections.reading k).toNat : Int) =
      (m.cached.reading k).toInt + (m.evicted.reading k).toNat := by
  obtain ⟨gone, hsum, hgone⟩ := h.evicted k
  have hword : ∀ n ≤ collected k, (UInt64.ofNat n).toNat = n := fun n hn =>
    UInt64.toNat_ofNat_of_lt' (Nat.lt_of_le_of_lt (Nat.le_trans hn hfits) (by decide))
  have hheld : held k ≤ Counter.signedLimit := Nat.le_trans (by omega) hfits
  have hgauge : (m.cached.reading k).toInt = held k := by
    rw [hcached, Nat.min_eq_left hheld]
    exact Int64.toInt_ofNat_of_lt (Nat.lt_of_le_of_lt hheld (by decide))
  rw [h.collections, hgone, hgauge, hword _ (Nat.le_refl _), hword gone (by omega)]
  omega

/-- **Conservation.** After every run of a profiler with metrics, each kind's
series are the words of its numbers of successful and failed events, of held
and of evicted records, and every record of a successful event is held or
evicted; the number of sessions is the one of the store. The series add up as
words, and as numbers unless there were too many events for a signed gauge. -/
theorem metrics_conserve (config : Config) (operations : List Operation) :
    let p := (ProfilerRun.after config true operations).profiler
    ∃ m, p.metrics = some m ∧ m.sessions = Int64.ofNat p.caches.userSwitch.size ∧
      ∀ k : CollectionKind, ∃ gone,
        operations.countP (·.succeeds k) = p.caches.recordCount k + gone ∧
        m.collections.reading k = UInt64.ofNat (operations.countP (·.succeeds k)) ∧
        m.failures.reading k = UInt64.ofNat (operations.countP (·.fails k)) ∧
        m.cached.reading k = Int64.ofNat (min (p.caches.recordCount k) Counter.signedLimit) ∧
        m.evicted.reading k = UInt64.ofNat gone ∧
        m.collections.reading k = UInt64.ofNat (p.caches.recordCount k) + m.evicted.reading k ∧
        (operations.countP (·.succeeds k) ≤ Counter.signedLimit →
          ((m.collections.reading k).toNat : Int) =
            (m.cached.reading k).toInt + (m.evicted.reading k).toNat) := by
  intro p
  obtain ⟨m, hm, hbalanced, hshows⟩ := ProfilerRun.accounts_after config operations
  refine ⟨m, hm, hshows.sessions, fun k => ?_⟩
  obtain ⟨gone, hsum, hgone⟩ := hbalanced.evicted k
  have hwords : m.collections.reading k =
      UInt64.ofNat (p.caches.recordCount k) + m.evicted.reading k := by
    rw [hbalanced.collections, hsum, UInt64.ofNat_add, hgone]
  exact ⟨gone, hsum, hbalanced.collections k, hbalanced.failures k, hshows.cached k, hgone,
    hwords, hbalanced.toNat_collections (hshows.cached k)⟩

/-- Where one record has room, the second of two puts the first among the evicted ones. -/
theorem metrics_conserve_replaced :
    let periodic : Operation := .collect ⟨.periodic, .epoch, .normal⟩ (.ok {}) false
    let operations := [periodic, .collect ⟨.wakeUp, .epoch, .normal⟩ (.error .noSamples) false, periodic]
    ∃ m, (ProfilerRun.after { periodicCapacity := 1 } true operations).profiler.metrics = some m ∧
      m.collections.reading .periodic = 2 ∧ m.failures.reading .wakeUp = 1 ∧
      m.evicted.reading .periodic = 1 ∧
      operations.countP (·.succeeds .periodic) ≤ Counter.signedLimit ∧
      ((m.collections.reading .periodic).toNat : Int) =
        (m.cached.reading .periodic).toInt + (m.evicted.reading .periodic).toNat := by
  intro periodic operations
  obtain ⟨m, hm, _, hseries⟩ := metrics_conserve { periodicCapacity := 1 } operations
  obtain ⟨gone, hsum, hcollections, _, _, hevicted, _, hadds⟩ := hseries .periodic
  obtain ⟨_, _, _, hfailures, _⟩ := hseries .wakeUp
  have hfits : operations.countP (·.succeeds .periodic) ≤ Counter.signedLimit := by decide
  have hone : gone = 1 := Nat.add_left_cancel hsum.symm
  subst hone
  exact ⟨m, hm, hcollections, hfailures, hevicted, hfits, hadds hfits⟩

end UsageWatch
