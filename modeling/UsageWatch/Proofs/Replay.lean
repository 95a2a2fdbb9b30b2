import UsageWatch.Proofs.Log
import UsageWatch.Proofs.SessionHistory
import UsageWatch.Proofs.Window
import UsageWatch.Replay.Run
/-!
# What a replay leaves behind

A replay takes its samples in order, and its clock moves on by one interval
with each of them. After every sample the caches are known (`Replay.Reached`):
the boot-time record as long as it is young enough, the ends of the logs of
periodic and of custom records, and a session once the last sample is reached.
So the whole replay succeeds, and what it leaves is known (`replay_leaves`).
-/

namespace UsageWatch

/-! ## Valid configurations -/

theorem Config.bound_ne_zero {c : Config} (h : c.validate = .ok ()) :
    ∀ bound ∈ c.positiveBounds, bound.2 ≠ 0 := by
  unfold validate at h
  cases hfind : c.positiveBounds.find? (·.2 = 0) with
  | some bound =>
    rw [hfind] at h
    cases h
  | none =>
    intro bound hmem
    simpa using List.find?_eq_none.mp hfind bound hmem

theorem Config.capacity_pos {c : Config} (h : c.validate = .ok ()) : 0 < c.periodicCapacity.toNat := by
  have hne := bound_ne_zero h ("periodic_collection_buffer_size", c.periodicCapacity)
    (by simp [positiveBounds])
  exact UInt64.pos_iff_ne_zero.mpr hne

/-! ## Times -/

namespace Timestamp

theorem later?_eq_some_iff {t u : Timestamp} {d : Duration} :
    t.later? d = some u ↔ u.nanos = t.nanos + d := by
  have hlower := t.lower
  have hu := u.lower
  have hu' := u.upper
  unfold later? ofNanos?
  constructor
  · intro h
    split at h
    · cases h
      rfl
    · cases h
  · intro h
    rw [dif_pos (by omega)]
    exact congrArg some (eq_of_nanos h.symm)

/-- Whatever lies before a point that can be reached can be reached. -/
theorem exists_later? {t u : Timestamp} {d d' : Nat} (h : t.later? d = some u) (hle : d' ≤ d) :
    ∃ v, t.later? d' = some v := by
  have hnanos := later?_eq_some_iff.mp h
  have hlower := t.lower
  have hupper := u.upper
  exact ⟨⟨t.nanos + d', by omega, by omega⟩, later?_eq_some_iff.mpr rfl⟩

end Timestamp

/-! ## One sample -/

def ReplayPlan.targets (plan : ReplayPlan) (last : Bool) : List Target :=
  (match plan.userSwitch with
    | some (origin, target) => if last then [.userSwitch origin target] else []
    | none => []) ++
  .periodic :: if plan.packages.isEmpty then [] else [.custom plan.packages]

namespace Replay

theorem step_eq (plan : ReplayPlan) (last : Bool) (r : Replay) :
    step plan last r = r.advance >>= fun r => (plan.targets last).foldlM collect r := by
  obtain ⟨packages, userSwitch⟩ := plan
  unfold step
  congr 1
  funext r
  cases userSwitch <;> cases last <;> by_cases hpackages : packages.isEmpty = true <;>
    simp [ReplayPlan.targets, hpackages]

theorem collect_eq {r : Replay} {sample : Sample} (h : r.source.sample = .ok sample) (target : Target) :
    ∃ p, r.collect target = .ok { r with profiler := p } ∧ p.config = r.profiler.config ∧
      p.caches = r.profiler.caches.collect r.profiler.config.bounds ⟨target, r.now, .normal⟩ sample := by
  refine ⟨(r.profiler.collect ⟨target, r.now, .normal⟩ (.ok sample)).1, ?_, ?_, ?_⟩
  · unfold Replay.collect
    rw [h]
    rfl
  · exact Profiler.config_collect _ _ _
  · exact Profiler.caches_collect _ _ _

/-- Collecting leaves the source and the clock alone, so every target is given the same sample. -/
theorem foldlM_collect_eq : ∀ (targets : List Target) {r : Replay} {sample : Sample},
    r.source.sample = .ok sample →
    ∃ p, targets.foldlM collect r = .ok { r with profiler := p } ∧ p.config = r.profiler.config ∧
      p.caches = targets.foldl (fun c target =>
        c.collect r.profiler.config.bounds ⟨target, r.now, .normal⟩ sample) r.profiler.caches
  | [], r, _, _ => ⟨r.profiler, rfl, rfl, rfl⟩
  | target :: rest, r, sample, h => by
    obtain ⟨p, hp, hconfig, hcaches⟩ := collect_eq h target
    obtain ⟨q, hq, hconfig', hcaches'⟩ := foldlM_collect_eq rest (r := { r with profiler := p }) h
    refine ⟨q, ?_, hconfig'.trans hconfig, ?_⟩
    · rw [List.foldlM_cons, hp]
      exact hq
    · rw [hcaches', hcaches, hconfig]
      rfl

end Replay

def ReplayPlan.switched (plan : ReplayPlan) (bounds : Bounds) (last : Bool) (now : Timestamp)
    (sample : Sample) (s : SessionStore) : SessionStore :=
  match plan.userSwitch, last with
  | some (origin, target), true =>
    (s.append origin target (.compute now sample bounds {} (s.previous? origin target)) now).sweep now
  | _, _ => s.sweep now

theorem Caches.foldl_targets (bounds : Bounds) (plan : ReplayPlan) (last : Bool) (c : Caches)
    (now : Timestamp) (sample : Sample) :
    (plan.targets last).foldl (fun c target => c.collect bounds ⟨target, now, .normal⟩ sample) c =
      { bootTime := c.bootTime.sweep now
        wakeUp := c.wakeUp.sweep now
        periodic := c.periodic.append (.compute now sample bounds {} c.periodic.last?) now
        custom :=
          if plan.packages.isEmpty then c.custom
          else c.custom.append (.compute now sample bounds plan.packages c.custom.last?) now
        userSwitch := plan.switched bounds last now sample c.userSwitch } := by
  obtain ⟨packages, userSwitch⟩ := plan
  cases userSwitch <;> cases last <;> by_cases hpackages : packages.isEmpty = true <;>
    simp [ReplayPlan.targets, hpackages] <;> rfl

/-! ## Nothing to age out -/

theorem Collection.records_sweep_of_nil {c : Collection} (h : c.records = []) (now : Timestamp) :
    (c.sweep now).records = [] := by
  have hsuffix := sweep_suffix c now
  rw [h] at hsuffix
  exact List.suffix_nil.mp hsuffix

namespace SessionStore

theorem sessions_sweep_of_nil {s : SessionStore} (h : s.sessions = []) (now : Timestamp) :
    (s.sweep now).sessions = [] := by
  unfold sweep
  rw [h]
  rfl

/-- A first session survives a sweep at the time of its record. -/
theorem sessions_sweep_append {s : SessionStore} (h : s.sessions = []) (origin target : Count)
    {r : Record} {now : Timestamp} (hr : r.time = now) :
    ((s.append origin target r now).sweep now).sessions =
      [⟨origin, target, { policy := .window s.retention, records := [r] }⟩] := by
  have hcurrent : s.current? origin target = none := by
    unfold current?
    rw [h]
    rfl
  have hroom (now : Timestamp) : Collection.recent s.retention now [] = [] := by
    unfold Collection.recent
    split <;> rfl
  have hkept : Collection.recent s.retention now [r] = [r] := by
    have hsorted : [r].Pairwise fun a b => a.time ≤ b.time := List.pairwise_singleton _ _
    rw [Collection.recent_eq_filter hsorted]
    refine List.filter_eq_self.mpr fun r' hr' => ?_
    rw [List.mem_singleton.mp hr', Record.isWithin, hr, decide_eq_true_eq]
    omega
  unfold append
  rw [hcurrent]
  simp [sweep, emptySession, Collection.append, Collection.makeRoom, Collection.sweep, h, hroom, hkept,
    Collection.isEmpty]

theorem previous?_of_nil {s : SessionStore} (h : s.sessions = []) (origin target : Count) :
    s.previous? origin target = none := by
  unfold previous? current?
  rw [h]
  rfl

end SessionStore

namespace ReplayPlan

variable (plan : ReplayPlan) (bounds : Bounds) (now : Timestamp) (sample : Sample)

theorem retention_switched (last : Bool) (s : SessionStore) :
    (plan.switched bounds last now sample s).retention = s.retention := by
  unfold switched
  split
  · exact s.retention_apply (.append _ _ _ now)
  · rfl

theorem sessions_switched_of_not_last {s : SessionStore} (h : s.sessions = []) :
    (plan.switched bounds false now sample s).sessions = [] := by
  unfold switched
  cases plan.userSwitch <;> exact SessionStore.sessions_sweep_of_nil h now

theorem sessions_switched_of_last {s : SessionStore} (h : s.sessions = []) :
    (plan.switched bounds true now sample s).sessions =
      plan.userSwitch.toList.map fun (origin, target) =>
        ⟨origin, target,
          { policy := .window s.retention
            records := [.compute now sample bounds {} none] }⟩ := by
  unfold switched
  cases plan.userSwitch with
  | none => exact SessionStore.sessions_sweep_of_nil h now
  | some switch =>
    obtain ⟨origin, target⟩ := switch
    simp only [SessionStore.previous?_of_nil h]
    exact SessionStore.sessions_sweep_append h origin target rfl

end ReplayPlan

/-! ## The loop -/

namespace Replay

section

variable (config : Config) (start : Timestamp) (plan : ReplayPlan)

/-- When the sample at an index is collected; the start stands for a time that
the clock cannot reach. -/
def timeOf (i : Nat) : Timestamp :=
  (start.later? (i * config.sampleInterval)).getD start

def firstRecord? (samples : List Sample) : Option Record :=
  samples.head?.map fun sample => .compute start sample config.bounds {} none

def laterEvents (target : Target) (samples : List Sample) : List (Event × Sample) :=
  samples.zipIdx.tail.map fun (sample, i) => (⟨target, timeOf config start i, .normal⟩, sample)

def laterRecords (target : Target) (samples : List Sample) : List Record :=
  recordLog config.bounds (·.target.filter) (laterEvents config start target samples)

def customRecords (samples : List Sample) : List Record :=
  if plan.packages.isEmpty then [] else laterRecords config start (.custom plan.packages) samples

/-- The session that the last sample opens, unless it is the first as well. -/
def sessions (samples : List Sample) : List Session :=
  samples.tail.getLast?.toList.flatMap fun sample =>
    plan.userSwitch.toList.map fun (origin, target) =>
      let r := Record.compute (timeOf config start (samples.length - 1)) sample config.bounds {} none
      ⟨origin, target, { policy := .window config.retention, records := [r] }⟩

/-- The caches once those of the `samples` that are `done` were collected. -/
structure Holds (samples done : List Sample) (now : Timestamp) (c : Caches) : Prop where
  bootTime : c.bootTime.Windowed config.retention (some now) (firstRecord? config start done).toList
  wakeUp : c.wakeUp.records = []
  periodic : c.periodic.Ends (.fifo config.periodicCapacity.toNat)
    (laterRecords config start .periodic done)
  custom : c.custom.Ends .unbounded (customRecords config start plan done)
  retention : c.userSwitch.retention = config.retention
  userSwitch : c.userSwitch.sessions =
    if done.length = samples.length then sessions config start plan samples else []

structure Reached (samples done : List Sample) (r : Replay) : Prop where
  configured : r.profiler.config = config
  source : r.source = { samples, position := done.length - 1 }
  now : r.now = timeOf config start (done.length - 1)
  caches : Holds config start plan samples done r.now r.profiler.caches

end

variable {config : Config} {start : Timestamp} {plan : ReplayPlan} {samples done : List Sample}

theorem laterRecords_concat (h : done ≠ []) (target : Target) (sample : Sample) :
    laterRecords config start target (done ++ [sample]) =
      laterRecords config start target done ++
        [.compute (timeOf config start done.length) sample config.bounds target.filter
          (laterRecords config start target done).getLast?] := by
  have htail : (done ++ [sample]).zipIdx.tail = done.zipIdx.tail ++ [(sample, done.length)] := by
    rw [List.zipIdx_append, List.tail_append_of_ne_nil (by simpa using h)]
    simp
  have hevents : laterEvents config start target (done ++ [sample]) =
      laterEvents config start target done ++
        [(⟨target, timeOf config start done.length, .normal⟩, sample)] := by
    simp [laterEvents, htail]
  unfold laterRecords
  rw [hevents, recordLog_concat]

theorem sessions_concat (h : done ≠ []) (sample : Sample) :
    sessions config start plan (done ++ [sample]) =
      plan.userSwitch.toList.map fun (origin, target) =>
        ⟨origin, target,
          { policy := .window config.retention
            records := [.compute (timeOf config start done.length) sample config.bounds {} none] }⟩ := by
  have htail : (done ++ [sample]).tail.getLast? = some sample := by
    rw [List.tail_append_of_ne_nil h, List.getLast?_concat]
  simp [sessions, htail]

/-! ## The caches after a sample -/

theorem Holds.next {now : Timestamp} {c : Caches} (h : Holds config start plan samples done now c)
    (hne : done ≠ []) {sample : Sample} {rest : List Sample} (hsamples : samples = done ++ sample :: rest)
    (hnow : now ≤ timeOf config start done.length) :
    Holds config start plan samples (done ++ [sample]) (timeOf config start done.length)
      ((plan.targets (rest.length = 0)).foldl (fun c target =>
        c.collect config.bounds ⟨target, timeOf config start done.length, .normal⟩ sample) c) := by
  have hmore : done.length < samples.length := by simp [hsamples]
  rw [Caches.foldl_targets]
  constructor
  · have hfirst : firstRecord? config start (done ++ [sample]) = firstRecord? config start done := by
      rw [firstRecord?, firstRecord?, List.head?_append_of_ne_nil _ hne]
    rw [hfirst]
    exact h.bootTime.sweep (by simpa using hnow)
  · exact Collection.records_sweep_of_nil h.wakeUp _
  · rw [laterRecords_concat hne, ← h.periodic.last?_eq]
    exact h.periodic.append _ _
  · have hcustom := h.custom
    unfold customRecords at hcustom ⊢
    by_cases hpackages : plan.packages.isEmpty = true
    · rw [if_pos hpackages] at hcustom
      rw [if_pos hpackages, if_pos hpackages]
      exact hcustom
    · rw [if_neg hpackages] at hcustom
      rw [if_neg hpackages, if_neg hpackages, laterRecords_concat hne, ← hcustom.last?_eq]
      exact hcustom.append _ _
  · exact (plan.retention_switched _ _ _ _ _).trans h.retention
  · have hnone := h.userSwitch
    rw [if_neg hmore.ne] at hnone
    show (plan.switched config.bounds (rest.length = 0) _ sample c.userSwitch).sessions = _
    -- a session is only opened with the last sample
    cases rest with
    | nil =>
      rw [if_pos (by rw [hsamples]), hsamples, sessions_concat hne, ← h.retention]
      exact plan.sessions_switched_of_last _ _ _ hnone
    | cons next rest =>
      rw [if_neg (by simp [hsamples])]
      exact plan.sessions_switched_of_not_last _ _ _ hnone

theorem holds_first (plan : ReplayPlan) (start : Timestamp) (hvalid : config.validate = .ok ())
    {first : Sample} {rest : List Sample} (hsamples : samples = first :: rest) :
    Holds config start plan samples [first] start
      ((Caches.ofConfig config).collect config.bounds ⟨.bootTime, start, .normal⟩ first) := by
  have hempty : (Collection.mk (.window config.retention) []).Windowed config.retention none [] :=
    Collection.windowed_empty rfl rfl
  constructor
  · exact hempty.append (by simp) rfl
  · rfl
  · exact Collection.ends_fifo_nil (Config.capacity_pos hvalid)
  · have hnone : customRecords config start plan [first] = [] := ite_self _
    rw [hnone]
    exact .unbounded []
  · rfl
  · rw [hsamples]
    cases rest <;> rfl

/-! ## Every sample -/

section

variable {last : Timestamp} {r : Replay}
  (hlast : start.later? ((samples.length - 1) * config.sampleInterval) = some last)

include hlast

/-- The clock reaches the last sample, and so every one before it. -/
theorem nanos_timeOf {i : Nat} (hi : i < samples.length) :
    (timeOf config start i).nanos = start.nanos + (i * config.sampleInterval : Nat) := by
  have hle : i * config.sampleInterval ≤ (samples.length - 1) * config.sampleInterval :=
    Nat.mul_le_mul_right _ (by omega)
  obtain ⟨t, ht⟩ := Timestamp.exists_later? hlast hle
  rw [timeOf, ht]
  exact Timestamp.later?_eq_some_iff.mp ht

theorem nanos_timeOf_le {i j : Nat} (hij : i ≤ j) (hj : j < samples.length) :
    (timeOf config start i).nanos ≤ (timeOf config start j).nanos := by
  have hle : i * config.sampleInterval ≤ j * config.sampleInterval := Nat.mul_le_mul_right _ hij
  rw [nanos_timeOf hlast hj, nanos_timeOf hlast (Nat.lt_of_le_of_lt hij hj)]
  omega

theorem later?_timeOf {i : Nat} (hi : i + 1 < samples.length) :
    (timeOf config start i).later? config.sampleInterval = some (timeOf config start (i + 1)) := by
  rw [Timestamp.later?_eq_some_iff, nanos_timeOf hlast hi, nanos_timeOf hlast (Nat.lt_of_succ_lt hi),
    Nat.succ_mul, Int.natCast_add, Int.add_assoc]

theorem Reached.advance_eq (h : Reached config start plan samples done r) (hne : done ≠ [])
    (hmore : done.length < samples.length) :
    r.advance = .ok
      { r with
        source := { samples, position := done.length }
        now := timeOf config start done.length } := by
  obtain ⟨i, hi⟩ := Nat.exists_eq_add_one.mpr (List.length_pos_iff.mpr hne)
  have hclock : r.now.later? r.profiler.config.sampleInterval =
      some (timeOf config start done.length) := by
    rw [h.configured, h.now, hi]
    exact later?_timeOf hlast (hi ▸ hmore)
  have hsource : r.source.advance = { samples, position := done.length } := by
    have hnext : done.length - 1 + 1 < samples.length := by omega
    rw [h.source, ReplaySource.advance_of_lt hnext]
    simp [hi]
  unfold advance
  rw [hclock, hsource]

theorem Reached.step (h : Reached config start plan samples done r) (hne : done ≠ [])
    {sample : Sample} {rest : List Sample} (hsamples : samples = done ++ sample :: rest) :
    ∃ r', Replay.step plan (rest.length = 0) r = .ok r' ∧
      Reached config start plan samples (done ++ [sample]) r' := by
  have hmore : done.length < samples.length := by simp [hsamples]
  have hadvance := h.advance_eq hlast hne hmore
  let now := timeOf config start done.length
  let moved : Replay := { r with source := { samples, position := done.length }, now }
  have hsample : moved.source.sample = .ok sample := by
    refine ReplaySource.sample_eq_ok ?_
    simp [moved, hsamples]
  obtain ⟨p, hcollect, hconfig, hcaches⟩ :=
    foldlM_collect_eq (plan.targets (rest.length = 0)) hsample
  have hbounds : moved.profiler.config.bounds = config.bounds := by rw [← h.configured]
  have hnow : r.now ≤ now := by
    rw [h.now, Timestamp.le_iff]
    exact nanos_timeOf_le hlast (Nat.sub_le _ _) hmore
  have hlength : (done ++ [sample]).length - 1 = done.length := by simp
  refine ⟨{ moved with profiler := p }, ?_, ?_⟩
  · rw [step_eq, hadvance]
    exact hcollect
  · constructor
    · exact hconfig.trans h.configured
    · rw [hlength]
    · rw [hlength]
    · rw [hcaches, hbounds]
      exact h.caches.next hne hsamples hnow

theorem Reached.steps : ∀ {rest done : List Sample} {r : Replay},
    Reached config start plan samples done r → done ≠ [] → samples = done ++ rest →
    ∃ r', Replay.steps plan rest.length r = .ok r' ∧ Reached config start plan samples samples r'
  | [], done, r, h, _, hsamples => by
    rw [List.append_nil] at hsamples
    exact ⟨r, rfl, hsamples ▸ h⟩
  | sample :: rest, done, r, h, hne, hsamples => by
    obtain ⟨r', hstep, h'⟩ := h.step hlast hne hsamples
    have hsamples' : samples = (done ++ [sample]) ++ rest := by simp [hsamples]
    obtain ⟨r'', hsteps, h''⟩ := h'.steps (by simp) hsamples'
    refine ⟨r'', ?_, h''⟩
    rw [List.length_cons, Replay.steps, hstep]
    exact hsteps

end

/-! ## The first sample -/

theorem start_eq (start : Timestamp) (plan : ReplayPlan) (hvalid : config.validate = .ok ())
    {data : ReplayData} {first : Sample} {rest : List Sample} (hsamples : data.samples = first :: rest) :
    ∃ r, Replay.start config data start = .ok r ∧
      Reached config start plan data.samples [first] r := by
  have hcreate : Profiler.create config = .ok (.fresh config false) :=
    Profiler.create_eq_ok.mpr ⟨hvalid, rfl⟩
  let begun : Replay := ⟨(Profiler.fresh config false).systemStartup, .ofData data, start⟩
  have hsample : begun.source.sample = .ok first := by
    refine ReplaySource.sample_eq_ok ?_
    simp [begun, ReplaySource.ofData, hsamples]
  obtain ⟨p, hcollect, hconfig, hcaches⟩ := collect_eq hsample .bootTime
  refine ⟨{ begun with profiler := p.serviceRegistered }, ?_, ?_⟩
  · have hsome : data.samples.isEmpty = false := by simp [hsamples]
    unfold Replay.start
    rw [hcreate]
    simp only [bind, Except.bind, pure, Except.pure, hsome, Bool.false_eq_true, if_false]
    rw [hcollect]
  have hnow : start = timeOf config start 0 := by
    have hstart : start.later? 0 = some start := by
      rw [Timestamp.later?_eq_some_iff]
      simp
    rw [timeOf, Nat.zero_mul, hstart, Option.getD_some]
  constructor
  · exact hconfig
  · rfl
  · exact hnow
  · have hcaches : p.caches =
        (Caches.ofConfig config).collect config.bounds ⟨.bootTime, start, .normal⟩ first := hcaches
    have hfirst := holds_first plan start hvalid hsamples
    rw [← hcaches] at hfirst
    exact hfirst

theorem run_eq (plan : ReplayPlan) (hvalid : config.validate = .ok ()) {data : ReplayData}
    (hsamples : data.samples ≠ []) {last : Timestamp}
    (hlast : start.later? ((data.samples.length - 1) * config.sampleInterval) = some last) :
    ∃ r, Replay.run config data plan start = .ok r.profiler ∧
      Reached config start plan data.samples data.samples r := by
  obtain ⟨first, rest, hfirst⟩ := List.exists_cons_of_ne_nil hsamples
  obtain ⟨r, hstart, h⟩ := start_eq start plan hvalid hfirst
  obtain ⟨r', hsteps, h'⟩ := h.steps hlast (by simp) hfirst
  have hlength : data.samples.length - 1 = rest.length := by simp [hfirst]
  refine ⟨r', ?_, h'⟩
  unfold Replay.run
  rw [hstart, hlength]
  simp only [bind, Except.bind, hsteps]
  rfl

/-- What is left of the boot-time record at the end; at the very boundary it is still there. -/
theorem Reached.records_bootTime {r : Replay} (h : Reached config start plan samples samples r)
    (hsamples : samples ≠ []) {last : Timestamp}
    (hlast : start.later? ((samples.length - 1) * config.sampleInterval) = some last) :
    r.profiler.caches.bootTime.records =
      if (samples.length - 1) * config.sampleInterval ≤ config.retention then
        [.compute start (samples.head hsamples) config.bounds {} none]
      else [] := by
  let elapsed : Nat := (samples.length - 1) * config.sampleInterval
  let first := Record.compute start (samples.head hsamples) config.bounds {} none
  have hfirst : firstRecord? config start samples = some first := by
    rw [firstRecord?, List.head?_eq_some_head hsamples]
    rfl
  have hwithin : first.isWithin config.retention r.now = decide (elapsed ≤ config.retention) := by
    have hlength : samples.length - 1 < samples.length :=
      Nat.sub_lt (List.length_pos_iff.mpr hsamples) Nat.one_pos
    have hnow := nanos_timeOf hlast hlength
    rw [← h.now] at hnow
    have helapsed : r.now.nanos - config.retention ≤ start.nanos ↔ elapsed ≤ config.retention := by
      rw [hnow]
      omega
    exact decide_eq_decide.mpr helapsed
  rw [h.caches.bootTime.held, hfirst, Option.toList_some, List.filter_singleton, Option.all_some, hwithin,
    Bool.cond_decide]

end Replay

/-- **What a replay leaves.** A valid configuration, samples, and a clock that
can reach the last of them are all that a replay needs. -/
theorem replay_leaves (config : Config) (hvalid : config.validate = .ok ()) (data : ReplayData)
    (hsamples : data.samples ≠ []) (plan : ReplayPlan) (start last : Timestamp)
    (hlast : start.later? ((data.samples.length - 1) * config.sampleInterval) = some last) :
    ∃ p, Replay.run config data plan start = .ok p ∧
      (∀ i < data.samples.length, (Replay.timeOf config start i).nanos =
        start.nanos + (i * config.sampleInterval : Nat)) ∧
      p.caches.bootTime.records =
        (if (data.samples.length - 1) * config.sampleInterval ≤ config.retention then
          [.compute start (data.samples.head hsamples) config.bounds {} none]
        else []) ∧
      p.caches.wakeUp.records = [] ∧
      p.caches.userSwitch.sessions = Replay.sessions config start plan data.samples ∧
      p.caches.periodic.records = (Replay.laterRecords config start .periodic data.samples).rtake
        config.periodicCapacity.toNat ∧
      p.caches.custom.records = Replay.customRecords config start plan data.samples := by
  obtain ⟨r, hrun, h⟩ := Replay.run_eq plan hvalid hsamples hlast
  have htimes := fun i (hi : i < data.samples.length) => Replay.nanos_timeOf hlast hi
  refine ⟨r.profiler, hrun, htimes, ?_, h.caches.wakeUp, ?_, h.caches.periodic.records_fifo,
    h.caches.custom.records_unbounded⟩
  · exact h.records_bootTime hsamples hlast
  · have hsessions := h.caches.userSwitch
    rw [if_pos rfl] at hsessions
    exact hsessions

/-- The boot-time record is as old as records can get, and of two periodic ones there is room for one. -/
theorem replay_leaves_boundary :
    let config : Config := { periodicCapacity := 1, retentionSeconds := 120 }
    let sample (faults : Counter) : Sample :=
      { packages := [{ uid := 1000, cpuTime := 5, group := { majorFaults := faults } }] }
    let data : ReplayData := ⟨"1", "", [sample 10, sample 15, sample 12]⟩
    let plan : ReplayPlan := { packages := ⟨["shell"]⟩, userSwitch := some (10, 11) }
    let minute : Timestamp := ⟨60000000000, by decide, by decide⟩
    let last : Timestamp := ⟨120000000000, by decide, by decide⟩
    let record (now : Timestamp) (faults : Counter) := Record.compute now (sample faults) config.bounds {}
    config.validate = .ok () ∧ data.samples ≠ [] ∧
      Timestamp.epoch.later? ((data.samples.length - 1) * config.sampleInterval) = some last ∧
      ∃ p, Replay.run config data plan .epoch = .ok p ∧
        p.caches.bootTime.records = [record .epoch 10 none] ∧
        p.caches.periodic.records = [record last 12 (some (record minute 15 none))] ∧
        p.caches.custom.size = 2 ∧
        p.caches.userSwitch.sessions =
          [⟨10, 11, { policy := .window config.retention, records := [record last 12 none] }⟩] := by
  intro config sample data plan minute last record
  have hvalid : config.validate = .ok () := by rfl
  have hsamples : data.samples ≠ [] := by simp [data]
  have hlast : Timestamp.epoch.later? ((data.samples.length - 1) * config.sampleInterval) = some last :=
    Timestamp.later?_eq_some_iff.mpr (by decide)
  obtain ⟨p, hrun, htimes, hbootTime, -, hsessions, hperiodic, hcustom⟩ :=
    replay_leaves config hvalid data hsamples plan .epoch last hlast
  have hsecond : Replay.timeOf config .epoch 1 = minute :=
    Timestamp.eq_of_nanos ((htimes 1 (by decide)).trans (by decide))
  have hthird : Replay.timeOf config .epoch 2 = last :=
    Timestamp.eq_of_nanos ((htimes 2 (by decide)).trans (by decide))
  refine ⟨hvalid, hsamples, hlast, p, hrun, ?_, ?_, ?_, ?_⟩
  · rw [hbootTime, if_pos (by decide)]
    rfl
  · have hlog : Replay.laterRecords config .epoch .periodic data.samples =
        [record minute 15 none, record last 12 (some (record minute 15 none))] := by
      simp [Replay.laterRecords, Replay.laterEvents, recordLog, data, hsecond, hthird, record,
        Target.filter]
    rw [hperiodic, hlog]
    rfl
  · rw [Collection.size, hcustom]
    rfl
  · rw [hsessions]
    simp [Replay.sessions, data, plan, hthird, record]

end UsageWatch
