import Mathlib.Data.List.DropRight
import Mathlib.Data.List.Induction
import UsageWatch.Proofs.CacheInput
/-!
# What a run has done since a cache was emptied

The events of a run that succeeded, the part of it after the last operation
that emptied the cache of a kind, and the records that were added in that part.
All of them grow with the run, one operation at a time.
-/

namespace UsageWatch

/-! ## Operations -/

def Operation.success? : Operation → Option (Event × Sample)
  | .collect event (.ok sample) _ => some (event, sample)
  | _ => none

def Operation.clears (k : CollectionKind) : Operation → Bool
  | .systemStartup => k = .bootTime || k = .wakeUp
  | .terminate => true
  | .clearCustom => k = .custom
  | _ => false

theorem Operation.success?_eq_some {operation : Operation} {event : Event} {sample : Sample}
    (h : operation.success? = some (event, sample)) :
    ∃ keepsUsage, operation = .collect event (.ok sample) keepsUsage := by
  unfold success? at h
  split at h
  · cases h
    exact ⟨_, rfl⟩
  · cases h

/-- An operation is at most one successful event. -/
theorem Operation.kind_ne_of_success {operation : Operation} {event : Event} {sample : Sample}
    {k : CollectionKind} (h : operation.success? = some (event, sample))
    (hne : event.target.kind ≠ k) :
    ∀ event' sample', operation.success? = some (event', sample') → event'.target.kind ≠ k := by
  intro event' sample' h'
  cases h.symm.trans h'
  exact hne

/-- All that an operation can be to the cache of a kind. -/
theorem Operation.inputFor_cases (k : CollectionKind) (operation : Operation) :
    (operation.clears k = true ∧ operation.inputFor k = some .cleared) ∨
    (operation.clears k = false ∧ ∃ event sample, operation.success? = some (event, sample) ∧
      event.target.kind = k ∧
        operation.inputFor k = some (.collected event.target event.time sample)) ∨
    (operation.clears k = false ∧ ∃ event sample, operation.success? = some (event, sample) ∧
      event.target.kind ≠ k ∧ event.target.kind = .periodic ∧
        operation.inputFor k = some (.swept event.time)) ∨
    (operation.clears k = false ∧ operation.inputFor k = none ∧
      ∀ event sample, operation.success? = some (event, sample) → event.target.kind ≠ k ∧
        (event.target.kind = .periodic → k = .custom)) := by
  cases operation with
  | collect event sampled keepsUsage =>
    cases sampled with
    | error e => exact .inr (.inr (.inr ⟨rfl, rfl, by simp [success?]⟩))
    | ok sample =>
      by_cases hkind : event.target.kind = k
      · exact .inr (.inl ⟨rfl, event, sample, rfl, hkind, by simp [inputFor, hkind]⟩)
      by_cases hswept : event.target.kind = .periodic ∧ k ∈ [.bootTime, .wakeUp, .userSwitch]
      · have hinput : inputFor k (.collect event (.ok sample) keepsUsage) = some (.swept event.time) := by
          simp only [inputFor, if_neg hkind, if_pos hswept]
        exact .inr (.inr (.inl ⟨rfl, event, sample, rfl, hkind, hswept.1, hinput⟩))
      · have hinput : inputFor k (.collect event (.ok sample) keepsUsage) = none := by
          simp only [inputFor, if_neg hkind, if_neg hswept]
        refine .inr (.inr (.inr ⟨rfl, hinput, fun event' sample' h => ?_⟩))
        cases h
        refine ⟨hkind, fun hperiodic => ?_⟩
        cases k <;> simp_all
  | systemStartup => cases k <;> simp [clears, inputFor, success?]
  | terminate => exact .inl ⟨rfl, rfl⟩
  | clearCustom => cases k <;> simp [clears, inputFor, success?]
  | _ => exact .inr (.inr (.inr ⟨rfl, rfl, by simp [success?]⟩))

/-! ## Events and parts of a run -/

def successes (kinds : List CollectionKind) (operations : List Operation) : List (Event × Sample) :=
  (operations.filterMap (·.success?)).filter (·.1.target.kind ∈ kinds)

/-- What was done since the cache of the kind was last emptied. -/
def sinceCleared (k : CollectionKind) (operations : List Operation) : List Operation :=
  operations.rtakeWhile (!·.clears k)

/-- What was done before that, the emptying included. -/
def untilCleared (k : CollectionKind) (operations : List Operation) : List Operation :=
  operations.rdropWhile (!·.clears k)

variable {k : CollectionKind} {kinds : List CollectionKind} {operation : Operation}

theorem successes_append (first rest : List Operation) :
    successes kinds (first ++ rest) = successes kinds first ++ successes kinds rest := by
  simp [successes]

theorem successes_concat {event : Event} {sample : Sample}
    (h : operation.success? = some (event, sample)) (hkind : event.target.kind ∈ kinds)
    (operations : List Operation) :
    successes kinds (operations ++ [operation]) = successes kinds operations ++ [(event, sample)] := by
  rw [successes_append]
  simp [successes, h, hkind]

theorem successes_concat_of_ne
    (h : ∀ event sample, operation.success? = some (event, sample) → event.target.kind ∉ kinds)
    (operations : List Operation) :
    successes kinds (operations ++ [operation]) = successes kinds operations := by
  rw [successes_append]
  cases hsuccess : operation.success? with
  | none => simp [successes, hsuccess]
  | some success => simp [successes, hsuccess, h success.1 success.2 hsuccess]

theorem sinceCleared_concat (operations : List Operation) :
    sinceCleared k (operations ++ [operation]) =
      if operation.clears k then [] else sinceCleared k operations ++ [operation] := by
  unfold sinceCleared
  rw [List.rtakeWhile_concat]
  cases operation.clears k <;> simp

theorem untilCleared_concat (operations : List Operation) :
    untilCleared k (operations ++ [operation]) =
      if operation.clears k then operations ++ [operation] else untilCleared k operations := by
  unfold untilCleared
  rw [List.rdropWhile_concat]
  cases operation.clears k <;> simp

/-! ## Caches that are one collection -/

/-- `cache` picks the collection with the records of the kind. -/
structure CollectionKind.IsIn (k : CollectionKind) (cache : Caches → Collection) : Prop where
  perform : ∀ (bounds : Bounds) (c : Caches) (operation : Operation),
    cache (c.perform bounds operation) =
      (operation.inputFor k).elim (cache c) ((cache c).receive bounds)
  previous? : ∀ (c : Caches) (target : Target), target.kind = k → c.previous? target = (cache c).last?

theorem bootTime_isIn : CollectionKind.IsIn .bootTime Caches.bootTime where
  perform bounds c operation := c.get_perform bounds .bootTime operation
  previous? c target h := by cases target <;> first | rfl | cases h

theorem wakeUp_isIn : CollectionKind.IsIn .wakeUp Caches.wakeUp where
  perform bounds c operation := c.get_perform bounds .wakeUp operation
  previous? c target h := by cases target <;> first | rfl | cases h

theorem periodic_isIn : CollectionKind.IsIn .periodic Caches.periodic where
  perform bounds c operation := c.get_perform bounds .periodic operation
  previous? c target h := by cases target <;> first | rfl | cases h

theorem custom_isIn : CollectionKind.IsIn .custom Caches.custom where
  perform bounds c operation := c.get_perform bounds .custom operation
  previous? c target h := by cases target <;> first | rfl | cases h

/-! ## Records -/

namespace ProfilerRun

theorem config_after (config : Config) (metered : Bool) (operations : List Operation) :
    (after config metered operations).profiler.config = config := by
  induction operations using List.reverseRecOn with
  | nil => rfl
  | append_singleton operations operation ih => rw [after_concat, config_perform, ih]

def added? (r : ProfilerRun) (k : CollectionKind) : Operation → Option Record
  | .collect event sampled _ =>
    if event.target.kind = k then (r.profiler.collect event sampled).2.toOption.map (·.record)
    else none
  | _ => none

def added (k : CollectionKind) : ProfilerRun → List Operation → List Record
  | _, [] => []
  | r, operation :: rest => (r.added? k operation).toList ++ added k (r.perform operation).1 rest

theorem added_concat (operations : List Operation) (r : ProfilerRun) :
    r.added k (operations ++ [operation]) =
      r.added k operations ++ ((r.run operations).1.added? k operation).toList := by
  induction operations generalizing r with
  | nil => simp [added, run]
  | cons first rest ih => simp [added, ih, run_cons]

/-- The records added since the cache of the kind was last emptied. -/
def log (config : Config) (metered : Bool) (k : CollectionKind) (operations : List Operation) :
    List Record :=
  (after config metered (untilCleared k operations)).added k (sinceCleared k operations)

theorem log_concat (config : Config) (metered : Bool) (operations : List Operation) :
    log config metered k (operations ++ [operation]) =
      if operation.clears k then [] else log config metered k operations ++
        ((after config metered operations).added? k operation).toList := by
  unfold log
  rw [sinceCleared_concat, untilCleared_concat]
  split
  · rfl
  · have hparts : untilCleared k operations ++ sinceCleared k operations = operations :=
      List.rdropWhile_append_rtakeWhile
    have hafter : ((after config metered (untilCleared k operations)).run
        (sinceCleared k operations)).1 = after config metered operations := by
      unfold after
      rw [← run_append, hparts]
    rw [added_concat, hafter]

theorem added?_of_success {event : Event} {sample : Sample}
    (h : operation.success? = some (event, sample)) (hkind : event.target.kind = k)
    (r : ProfilerRun) :
    r.added? k operation = some (.compute event.time sample r.profiler.config.bounds
      event.target.filter (r.profiler.caches.previous? event.target)) := by
  obtain ⟨keepsUsage, rfl⟩ := Operation.success?_eq_some h
  obtain ⟨collected, hanswer, hnewest⟩ := r.profiler.collect_eq_ok event sample
  rw [Profiler.caches_collect, Caches.previous?_collect] at hnewest
  simp [added?, hkind, hanswer, hnewest, Except.toOption]

theorem added?_of_ne (h : ∀ event sample, operation.success? = some (event, sample) →
    event.target.kind ≠ k) (r : ProfilerRun) : r.added? k operation = none := by
  cases operation with
  | collect event sampled keepsUsage =>
    cases sampled with
    | error e => simp [added?, Profiler.collect, Except.toOption]
    | ok sample => simp [added?, h event sample rfl]
  | _ => rfl

variable {cache : Caches → Collection}

theorem cache_after_concat (h : k.IsIn cache) (config : Config) (metered : Bool)
    (operations : List Operation) :
    cache (after config metered (operations ++ [operation])).profiler.caches =
      (operation.inputFor k).elim (cache (after config metered operations).profiler.caches)
        ((cache (after config metered operations).profiler.caches).receive config.bounds) := by
  rw [after_concat, caches_perform, config_after, h.perform]

theorem added?_after (h : k.IsIn cache) {event : Event} {sample : Sample}
    (hsuccess : operation.success? = some (event, sample)) (hkind : event.target.kind = k)
    (config : Config) (metered : Bool) (operations : List Operation) :
    (after config metered operations).added? k operation =
      some (.compute event.time sample config.bounds event.target.filter
        (cache (after config metered operations).profiler.caches).last?) := by
  rw [added?_of_success hsuccess hkind, config_after, h.previous? _ _ hkind]

theorem log_of_clears (h : operation.clears k = true) (config : Config) (metered : Bool)
    (operations : List Operation) : log config metered k (operations ++ [operation]) = [] := by
  rw [log_concat, if_pos h]

theorem log_of_success (hcache : k.IsIn cache) (h : operation.clears k = false) {event : Event}
    {sample : Sample} (hsuccess : operation.success? = some (event, sample))
    (hkind : event.target.kind = k) (config : Config) (metered : Bool)
    (operations : List Operation) :
    log config metered k (operations ++ [operation]) = log config metered k operations ++
      [.compute event.time sample config.bounds event.target.filter
        (cache (after config metered operations).profiler.caches).last?] := by
  rw [log_concat, if_neg (by simp [h]), added?_after hcache hsuccess hkind, Option.toList_some]

theorem log_of_ne (h : operation.clears k = false)
    (hne : ∀ event sample, operation.success? = some (event, sample) → event.target.kind ≠ k)
    (config : Config) (metered : Bool) (operations : List Operation) :
    log config metered k (operations ++ [operation]) = log config metered k operations := by
  rw [log_concat, if_neg (by simp [h]), added?_of_ne hne, Option.toList_none, List.append_nil]

end ProfilerRun

end UsageWatch
