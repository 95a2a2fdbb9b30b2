import UsageWatch.Proofs.Collection
import UsageWatch.Proofs.History
/-!
# Windows are exact

Boot-time and wake-up records age out late, when another event comes along, and
from the old end only. As long as the clock does not run backwards this is
exact: the cache holds the records within the retention of the last event that
reached it, and no others (`windows_exact`).
-/

namespace UsageWatch

/-! ## One collection -/

/-- `latest?` is when the collection was last reached, `log` all that was added to it. -/
structure Collection.Windowed (c : Collection) (retention : Duration) (latest? : Option Timestamp)
    (log : List Record) : Prop where
  policy : c.policy = .window retention
  held : c.records = log.filter fun r => latest?.all (r.isWithin retention ·)
  sorted : log.Pairwise fun a b => a.time ≤ b.time
  reached : ∀ r ∈ log, ∃ now, latest? = some now ∧ r.time ≤ now

namespace Collection

variable {c : Collection} {retention : Duration} {latest? : Option Timestamp} {log : List Record}
  {now : Timestamp}

theorem windowed_empty (h : c.policy = .window retention) (hc : c.records = []) :
    c.Windowed retention none [] where
  policy := h
  held := hc
  sorted := .nil
  reached := by simp

theorem Windowed.sweep (h : c.Windowed retention latest? log)
    (hnow : ∀ t, latest? = some t → t ≤ now) :
    (c.sweep now).Windowed retention (some now) log where
  policy := (c.policy_sweep now).trans h.policy
  held := by
    have hsorted : c.records.Pairwise fun a b => a.time ≤ b.time := by
      rw [h.held]
      exact h.sorted.filter _
    rw [records_sweep h.policy, recent_eq_filter hsorted, h.held, List.filter_filter]
    refine List.filter_congr fun r _ => ?_
    -- whoever is within the later window was within the earlier one
    cases hr : r.isWithin retention now with
    | false => simp [hr]
    | true =>
      cases hlatest : latest? with
      | none => simp [hr]
      | some t => simp [hr, Record.isWithin_mono (hnow t hlatest) hr]
  sorted := h.sorted
  reached r hr := by
    obtain ⟨t, ht, hle⟩ := h.reached r hr
    exact ⟨now, rfl, Int.le_trans hle (hnow t ht)⟩

theorem Windowed.append (h : c.Windowed retention latest? log)
    (hnow : ∀ t, latest? = some t → t ≤ now) {r : Record} (hr : r.time = now) :
    (c.append r now).Windowed retention (some now) (log ++ [r]) := by
  have hswept := h.sweep hnow
  have hroom := makeRoom_eq_sweep h.policy now
  have hwithin : r.isWithin retention now = true := by
    simp only [Record.isWithin, hr, decide_eq_true_eq]
    omega
  constructor
  · rw [policy_append, h.policy]
  · rw [records_append, hroom, hswept.held]
    simp [hwithin]
  · refine List.pairwise_append.mpr ⟨h.sorted, List.pairwise_singleton _ _, ?_⟩
    intro a ha b hb
    obtain ⟨t, ht, hle⟩ := hswept.reached a ha
    cases ht
    rw [List.mem_singleton.mp hb, hr]
    exact hle
  · intro a ha
    rcases List.mem_append.mp ha with ha | ha
    · exact hswept.reached a ha
    · rw [List.mem_singleton.mp ha]
      exact ⟨now, rfl, hr ▸ Int.le_refl _⟩

end Collection

/-! ## Runs -/

def Chronological (operations : List Operation) : Prop :=
  ((successes [.bootTime, .wakeUp, .periodic] operations).map (·.1.time)).Pairwise (· ≤ ·)

/-- When the window of the kind was last reached since it was emptied: by an
event of its own, or by a periodic one. -/
def lastReached? (k : CollectionKind) (operations : List Operation) : Option Timestamp :=
  (successes [k, .periodic] (sinceCleared k operations)).getLast?.map (·.1.time)

variable {k : CollectionKind} {operation : Operation} {operations : List Operation}

theorem Chronological.of_concat (h : Chronological (operations ++ [operation])) :
    Chronological operations := by
  unfold Chronological at h ⊢
  rw [successes_append, List.map_append] at h
  exact (List.pairwise_append.mp h).1

theorem exists_of_lastReached? {t : Timestamp} (h : lastReached? k operations = some t) :
    ∃ past ∈ successes [k, .periodic] operations, past.1.time = t := by
  obtain ⟨past, hpast, ht⟩ := Option.map_eq_some_iff.mp h
  have hsince : sinceCleared k operations <:+ operations := List.rtakeWhile_suffix _ _
  have hsublist := (hsince.sublist.filterMap (·.success?)).filter
    fun event => decide (event.1.target.kind ∈ [k, .periodic])
  exact ⟨past, hsublist.subset (List.mem_of_getLast? hpast), ht⟩

/-- A window was last reached before the next event that can reach it. -/
theorem Chronological.lastReached?_le (h : Chronological (operations ++ [operation]))
    (hk : k ∈ [.bootTime, .wakeUp]) {event : Event} {sample : Sample}
    (hsuccess : operation.success? = some (event, sample))
    (hkind : event.target.kind ∈ [k, .periodic]) :
    ∀ t, lastReached? k operations = some t → t ≤ event.time := by
  intro t ht
  have hkinds : ∀ j ∈ [k, .periodic], j ∈ [CollectionKind.bootTime, .wakeUp, .periodic] := by
    intro j hj
    simp only [List.mem_cons, List.not_mem_nil, or_false] at hk hj ⊢
    grind
  obtain ⟨past, hpast, rfl⟩ := exists_of_lastReached? ht
  unfold Chronological at h
  rw [successes_concat hsuccess (hkinds _ hkind), List.map_append] at h
  refine (List.pairwise_append.mp h).2.2 _ (List.mem_map_of_mem ?_) _ (List.mem_singleton_self _)
  unfold successes at hpast ⊢
  rw [List.mem_filter, decide_eq_true_eq] at hpast ⊢
  exact ⟨hpast.1, hkinds _ hpast.2⟩

theorem lastReached?_of_clears (h : operation.clears k = true) :
    lastReached? k (operations ++ [operation]) = none := by
  simp [lastReached?, sinceCleared_concat, h, successes]

theorem lastReached?_of_success (h : operation.clears k = false) {event : Event} {sample : Sample}
    (hsuccess : operation.success? = some (event, sample))
    (hkind : event.target.kind ∈ [k, .periodic]) :
    lastReached? k (operations ++ [operation]) = some event.time := by
  simp [lastReached?, sinceCleared_concat, h, successes_concat hsuccess hkind]

theorem lastReached?_of_ne (h : operation.clears k = false)
    (hne : ∀ event sample, operation.success? = some (event, sample) →
      event.target.kind ∉ [k, .periodic]) :
    lastReached? k (operations ++ [operation]) = lastReached? k operations := by
  simp [lastReached?, sinceCleared_concat, h, successes_concat_of_ne hne]

namespace ProfilerRun

theorem windowed_after {cache : Caches → Collection} (hcache : k.IsIn cache)
    (hk : k ∈ [.bootTime, .wakeUp]) {config : Config}
    (hempty : cache (.ofConfig config) = { policy := .window config.retention }) (metered : Bool)
    (operations : List Operation) (h : Chronological operations) :
    (cache (after config metered operations).profiler.caches).Windowed config.retention
      (lastReached? k operations) (log config metered k operations) := by
  induction operations using List.reverseRecOn with
  | nil =>
    have hfresh : cache (after config metered []).profiler.caches =
        { policy := .window config.retention } := hempty
    rw [hfresh]
    exact Collection.windowed_empty rfl rfl
  | append_singleton operations operation ih =>
    have ih := ih h.of_concat
    rw [cache_after_concat hcache]
    rcases operation.inputFor_cases k with ⟨hclears, hinput⟩ |
      ⟨hclears, event, sample, hsuccess, hkind, hinput⟩ |
      ⟨hclears, event, sample, hsuccess, hne, hperiodic, hinput⟩ | ⟨hclears, hinput, hne⟩
    · rw [hinput, log_of_clears hclears, lastReached?_of_clears hclears]
      exact Collection.windowed_empty ih.policy rfl
    · have hreach : event.target.kind ∈ [k, .periodic] := by simp [hkind]
      rw [hinput, log_of_success hcache hclears hsuccess hkind,
        lastReached?_of_success hclears hsuccess hreach]
      exact ih.append (h.lastReached?_le hk hsuccess hreach) rfl
    · have hreach : event.target.kind ∈ [k, .periodic] := by simp [hperiodic]
      rw [hinput, log_of_ne hclears (Operation.kind_ne_of_success hsuccess hne),
        lastReached?_of_success hclears hsuccess hreach]
      exact ih.sweep (h.lastReached?_le hk hsuccess hreach)
    · have hunreached : ∀ event sample, operation.success? = some (event, sample) →
          event.target.kind ∉ [k, .periodic] := by
        intro event sample hsuccess hmem
        obtain ⟨hother, hperiodic⟩ := hne event sample hsuccess
        simp only [List.mem_cons, List.not_mem_nil, or_false] at hmem hk
        rcases hmem with hmem | hmem
        · exact hother hmem
        · rcases hk with rfl | rfl <;> cases hperiodic hmem
      rw [hinput, log_of_ne hclears fun event sample h => (hne event sample h).1,
        lastReached?_of_ne hclears hunreached]
      exact ih

/-- The records of the kind that a run has added since its cache was emptied
and that are no older than the retention when the cache was last reached. -/
def window (config : Config) (metered : Bool) (k : CollectionKind) (operations : List Operation) :
    List Record :=
  (log config metered k operations).filter fun r =>
    (lastReached? k operations).all fun now => now.nanos - config.retention ≤ r.time.nanos

end ProfilerRun

/-- **Exact windows.** After a run whose clock never runs backwards, the
boot-time and the wake-up cache hold what `window` says, oldest first. -/
theorem windows_exact (config : Config) (metered : Bool) (operations : List Operation)
    (h : Chronological operations) :
    let caches := (ProfilerRun.after config metered operations).profiler.caches
    caches.bootTime.records = ProfilerRun.window config metered .bootTime operations ∧
      caches.wakeUp.records = ProfilerRun.window config metered .wakeUp operations :=
  ⟨(ProfilerRun.windowed_after bootTime_isIn (by simp) rfl metered operations h).held,
    (ProfilerRun.windowed_after wakeUp_isIn (by simp) rfl metered operations h).held⟩

/-- At the boundary a record stays; a nanosecond later it is gone. -/
theorem windows_exact_boundary :
    let hour : Timestamp := ⟨3600000000000, by decide, by decide⟩
    let past : Timestamp := ⟨3600000000001, by decide, by decide⟩
    let boot : Operation := .collect ⟨.bootTime, .epoch, .normal⟩ (.ok {}) false
    let wakeUp : Operation := .collect ⟨.wakeUp, hour, .normal⟩ (.ok {}) false
    let periodic (now : Timestamp) : Operation := .collect ⟨.periodic, now, .normal⟩ (.ok {}) false
    let operations := [boot, wakeUp, periodic hour]
    Chronological operations ∧ Chronological (operations ++ [periodic past]) ∧
      (ProfilerRun.after {} false operations).profiler.caches.bootTime.size = 1 ∧
      (ProfilerRun.after {} false (operations ++ [periodic past])).profiler.caches.bootTime.records =
        [] := by
  intro hour past boot wakeUp periodic operations
  have hfirst : Chronological operations := by
    unfold Chronological
    decide
  have hsecond : Chronological (operations ++ [periodic past]) := by
    unfold Chronological
    decide
  refine ⟨hfirst, hsecond, ?_, ?_⟩
  · rw [Collection.size, (windows_exact {} false _ hfirst).1]
    rfl
  · rw [(windows_exact {} false _ hsecond).1]
    rfl

end UsageWatch
