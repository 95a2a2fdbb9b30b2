import UsageWatch.Proofs.DumpMessage
import UsageWatch.Proofs.History
import UsageWatch.Proofs.Projection
/-!
# Mirrored usage

An event that can hand back usage writes what its caller holds exactly if it
succeeds while usage is mirrored, and then it is the usage of the record that
was added, over the interval that a dump reports for its collection
(`usage_written`). Whether usage is mirrored is for two operations to say.
-/

namespace UsageWatch

/-! ## Whether usage is mirrored -/

def Operation.mirroring? (config : Config) : Operation → Option Bool
  | .serviceRegistered => some config.mirrorUsage
  | .setMirroring on => some on
  | _ => none

def mirroringAfter (config : Config) (operations : List Operation) : Bool :=
  (operations.filterMap (·.mirroring? config)).getLast?.getD false

theorem mirroringAfter_concat (config : Config) (operations : List Operation)
    (operation : Operation) :
    mirroringAfter config (operations ++ [operation]) =
      (operation.mirroring? config).getD (mirroringAfter config operations) := by
  unfold mirroringAfter
  rw [List.filterMap_append]
  cases h : operation.mirroring? config with
  | none => simp [h]
  | some on => simp [h]

theorem Profiler.mirroring_collect (p : Profiler) (event : Event)
    (sampled : Except ProfilerError Sample) :
    (p.collect event sampled).1.mirroring = p.mirroring := by
  obtain ⟨target, time, state⟩ := event
  cases sampled <;> cases target <;> rfl

namespace ProfilerRun

theorem mirroring_perform (r : ProfilerRun) (operation : Operation) :
    (r.perform operation).1.profiler.mirroring =
      (operation.mirroring? r.profiler.config).getD r.profiler.mirroring := by
  cases operation with
  | collect event sampled keepsUsage => exact Profiler.mirroring_collect _ _ _
  | _ => rfl

theorem mirroring_after (config : Config) (metered : Bool) (operations : List Operation) :
    (after config metered operations).profiler.mirroring = mirroringAfter config operations := by
  induction operations using List.reverseRecOn with
  | nil => rfl
  | append_singleton operations operation ih =>
    rw [after_concat, mirroring_perform, config_after, ih, mirroringAfter_concat]

/-! ## The usage that a caller holds -/

/-- Whatever the caller holds, it goes on holding it. -/
def LeavesUsage (r : ProfilerRun) (operation : Operation) : Prop :=
  ∀ held, ({ r with usage := held }.perform operation).1.usage = held

def WritesUsage (r : ProfilerRun) (operation : Operation) (usage : ResourceUsage) : Prop :=
  ∀ held, ({ r with usage := held }.perform operation).1.usage = some usage

theorem WritesUsage.not_leavesUsage {r : ProfilerRun} {operation : Operation}
    {usage : ResourceUsage} (h : r.WritesUsage operation usage) : ¬ r.LeavesUsage operation :=
  fun hleaves => Option.some_ne_none usage ((h none).symm.trans (hleaves none))

end ProfilerRun

/-- What an event that can hand back usage hands back, if it succeeds. -/
theorem Profiler.usage_collect (p : Profiler) {event : Event}
    (hmirrors : event.target.mirrors = true) (sample : Sample) :
    ∃ collected, (p.collect event (.ok sample)).2 = .ok collected ∧
      collected.usage = if p.mirroring then
        some (collected.record.usage (p.config.intervals.get event.target.kind)) else none := by
  obtain ⟨target, time, state⟩ := event
  refine ⟨_, rfl, ?_⟩
  simp only [hmirrors, Bool.and_true]
  cases target <;> rfl

namespace ProfilerRun

variable {r : ProfilerRun} {event : Event}

theorem leavesUsage_of_error (r : ProfilerRun) (event : Event) (e : ProfilerError) :
    r.LeavesUsage (.collect event (.error e) true) := fun _ => rfl

theorem leavesUsage_of_not_mirroring (hmirrors : event.target.mirrors = true) (sample : Sample)
    (h : r.profiler.mirroring = false) : r.LeavesUsage (.collect event (.ok sample) true) := by
  obtain ⟨collected, hcollected, husage⟩ := r.profiler.usage_collect hmirrors sample
  intro held
  show Profiler.usageAfter held (r.profiler.collect event (.ok sample)).2 = held
  rw [hcollected, Profiler.usageAfter, husage, h]
  rfl

theorem exists_writesUsage (hmirrors : event.target.mirrors = true) (sample : Sample)
    (h : r.profiler.mirroring = true) :
    ∃ newest, r.added? event.target.kind (.collect event (.ok sample) true) = some newest ∧
      (r.perform (.collect event (.ok sample) true)).1.profiler.caches.previous? event.target =
        some newest ∧
      r.WritesUsage (.collect event (.ok sample) true)
        (newest.usage (r.profiler.config.intervals.get event.target.kind)) := by
  obtain ⟨collected, hcollected, husage⟩ := r.profiler.usage_collect hmirrors sample
  obtain ⟨collected', hcollected', hnewest⟩ := r.profiler.collect_eq_ok event sample
  obtain rfl : collected' = collected := Except.ok.inj (hcollected'.symm.trans hcollected)
  refine ⟨collected'.record, by simp [added?, hcollected, Except.toOption], hnewest, ?_⟩
  intro held
  show Profiler.usageAfter held (r.profiler.collect event (.ok sample)).2 = _
  rw [hcollected, Profiler.usageAfter, husage, h]
  rfl

theorem isOk_perform_collect (r : ProfilerRun) (event : Event)
    (sampled : Except ProfilerError Sample) (keepsUsage : Bool) :
    (r.perform (.collect event sampled keepsUsage)).2.isOk = sampled.isOk := by
  cases sampled <;> rfl

end ProfilerRun

/-! ## Intervals in a dump -/

/-- The message of the collection with the records of the kind, if there is one for all of them. -/
def Wire.ProfilerDump.collection? (m : ProfilerDump) (k : CollectionKind) :
    Option StatsCollection :=
  m.collections.bind fun collections =>
    match k with
    | .bootTime => collections.bootTime
    | .wakeUp => collections.wakeUp
    | .userSwitch => none
    | .periodic => collections.lastMinutes
    | .custom => collections.custom

theorem Wire.StatsCollection.intervalMillis_eq {c : Collection} {millis : Counter}
    {m : StatsCollection} (h : ofCollection? c millis = some m) :
    m.intervalMillis.toInt = (min millis.toNat 0x7fffffffffffffff : Nat) := by
  unfold ofCollection? at h
  obtain ⟨records, -, hm⟩ := Option.bind_eq_some_iff.mp h
  obtain rfl := Option.some.inj hm
  exact millis.toInt_toSigned

theorem Profiler.intervalMillis_dumpMessage {p : Profiler} {intervals : Intervals}
    {m : Wire.ProfilerDump} (h : p.dumpMessage intervals = .ok m) {k : CollectionKind}
    (hk : k ≠ .userSwitch) :
    ∃ c, m.collection? k = some c ∧
      c.intervalMillis.toInt = (min (intervals.get k).toNat 0x7fffffffffffffff : Nat) := by
  have hmessage : p.message? intervals = some m := by
    unfold dumpMessage at h
    cases hm : p.message? intervals with
    | none => simp [hm] at h
    | some m' => simpa [hm] using h
  unfold message? at hmessage
  obtain ⟨bootTime, hbootTime, hmessage⟩ := Option.bind_eq_some_iff.mp hmessage
  obtain ⟨wakeUp, hwakeUp, hmessage⟩ := Option.bind_eq_some_iff.mp hmessage
  obtain ⟨userSwitches, -, hmessage⟩ := Option.bind_eq_some_iff.mp hmessage
  obtain ⟨periodic, hperiodic, hmessage⟩ := Option.bind_eq_some_iff.mp hmessage
  obtain ⟨custom, hcustom, hmessage⟩ := Option.bind_eq_some_iff.mp hmessage
  obtain rfl := Option.some.inj hmessage
  cases k with
  | bootTime => exact ⟨bootTime, rfl, Wire.StatsCollection.intervalMillis_eq hbootTime⟩
  | wakeUp => exact ⟨wakeUp, rfl, Wire.StatsCollection.intervalMillis_eq hwakeUp⟩
  | userSwitch => exact absurd rfl hk
  | periodic => exact ⟨periodic, rfl, Wire.StatsCollection.intervalMillis_eq hperiodic⟩
  | custom => exact ⟨custom, rfl, Wire.StatsCollection.intervalMillis_eq hcustom⟩

theorem Target.kind_ne_userSwitch {target : Target} (h : target.mirrors = true) :
    target.kind ≠ .userSwitch := by
  cases target with
  | wakeUp | userSwitch => cases h
  | bootTime | periodic | custom => exact CollectionKind.noConfusion

/-- **Mirrored usage.** After every run usage is mirrored if the last operation
that had a say in it said so, and no other operation changes that. An event that
can hand back usage leaves what its caller holds alone unless it succeeds while
usage is mirrored. Then it writes the usage of the record that it added, the
newest of its collection, over the interval of its kind. That is the interval
which a dump with the configured ones reports for the collection, as far as it
fits; and the calendar permitting there is such a dump. -/
theorem usage_written (config : Config) (metered : Bool) (operations : List Operation)
    (event : Event) (hmirrors : event.target.mirrors = true)
    (sampled : Except ProfilerError Sample) :
    let r := ProfilerRun.after config metered operations
    let mirroring := mirroringAfter config operations
    let collect : Operation := .collect event sampled true
    let next := (r.perform collect).1.profiler
    let succeeds := (r.perform collect).2.isOk
    r.profiler.mirroring = mirroring ∧
      (∀ operation, operation.mirroring? config = none →
        (r.perform operation).1.profiler.mirroring = mirroring) ∧
      (¬ r.LeavesUsage collect ↔ succeeds = true ∧ mirroring = true) ∧
      (succeeds = true → mirroring = true → ∃ newest,
        r.added? event.target.kind collect = some newest ∧
          next.caches.previous? event.target = some newest ∧
          r.WritesUsage collect (newest.usage (config.intervals.get event.target.kind))) ∧
      (∀ m, next.dumpMessage config.intervals = .ok m → ∃ c,
        m.collection? event.target.kind = some c ∧ c.intervalMillis.toInt =
          (min (config.intervals.get event.target.kind).toNat 0x7fffffffffffffff : Nat)) ∧
      (next.caches.Dated → ∃ m, next.dumpMessage config.intervals = .ok m) := by
  intro r mirroring collect next succeeds
  have hmirroring : r.profiler.mirroring = mirroring :=
    ProfilerRun.mirroring_after config metered operations
  have hconfig : r.profiler.config = config := ProfilerRun.config_after config metered operations
  have hsucceeds : succeeds = sampled.isOk := r.isOk_perform_collect event sampled true
  have hwrites : succeeds = true → mirroring = true → ∃ newest,
      r.added? event.target.kind collect = some newest ∧
        next.caches.previous? event.target = some newest ∧
        r.WritesUsage collect (newest.usage (config.intervals.get event.target.kind)) := by
    intro hok hon
    cases sampled with
    | error e => cases hsucceeds.symm.trans hok
    | ok sample =>
      rw [← hconfig]
      exact ProfilerRun.exists_writesUsage hmirrors sample (hmirroring.trans hon)
  refine ⟨hmirroring, fun operation hsilent => ?_, ⟨fun hwritten => ?_, fun ⟨hok, hon⟩ => ?_⟩,
    hwrites, fun m hm => ?_, fun hdated => ?_⟩
  · rw [ProfilerRun.mirroring_perform, hconfig, hsilent]
    exact hmirroring
  · cases sampled with
    | error e => exact absurd (r.leavesUsage_of_error event e) hwritten
    | ok sample =>
      refine ⟨hsucceeds, Bool.of_not_eq_false fun hoff => hwritten ?_⟩
      exact ProfilerRun.leavesUsage_of_not_mirroring hmirrors sample (hmirroring.trans hoff)
  · obtain ⟨newest, -, -, hwritten⟩ := hwrites hok hon
    exact hwritten.not_leavesUsage
  · exact Profiler.intervalMillis_dumpMessage hm (Target.kind_ne_userSwitch hmirrors)
  · obtain ⟨m, -, hm, -⟩ := next.exists_message hdated config.intervals
    exact ⟨m, by rw [Profiler.dumpMessage, hm]⟩

/-- Registration has the last word, a clearing none, and an interval past the
signed words is handed back in full and stops at their largest one in a dump. -/
theorem usage_written_clamped :
    let config : Config :=
      { mirrorUsage := true, intervals := { bootTime := 0xffffffffffffffff } }
    let operations : List Operation := [.setMirroring false, .serviceRegistered, .terminate]
    let boot : Event := ⟨.bootTime, .epoch, .normal⟩
    let collect : Operation := .collect boot (.ok {}) true
    let r := ProfilerRun.after config false operations
    let next := (r.perform collect).1.profiler
    boot.target.mirrors = true ∧ Operation.mirroring? config .clearCustom = none ∧
      (r.perform .clearCustom).1.profiler.mirroring = true ∧
      (r.perform collect).2.isOk = true ∧ mirroringAfter config operations = true ∧
      next.caches.Dated ∧ ∃ newest m c, next.caches.previous? .bootTime = some newest ∧
        r.WritesUsage collect (newest.usage 0xffffffffffffffff) ∧
        next.dumpMessage config.intervals = .ok m ∧ m.collection? .bootTime = some c ∧
        c.intervalMillis.toInt = 0x7fffffffffffffff := by
  intro config operations boot collect r next
  have hsilent : Operation.mirroring? config .clearCustom = none := rfl
  have hsucceeds : (r.perform collect).2.isOk = true := rfl
  have hmirroring : mirroringAfter config operations = true := rfl
  have hbootTime : next.caches.bootTime.records = [.compute .epoch {} ⟨10, 5⟩ {} none] := by
    dsimp only [next, r, collect, boot, operations, config]
    rfl
  have hdated : next.caches.Dated := by
    constructor
    case bootTime =>
      intro record hrecord
      rw [hbootTime, List.mem_singleton] at hrecord
      rw [hrecord]
      decide
    all_goals exact fun _ hmem => nomatch hmem
  obtain ⟨-, hsame, -, hwrites, hdump, hdumped⟩ :=
    usage_written config false operations boot rfl (.ok {})
  obtain ⟨newest, -, hnewest, hwritten⟩ := hwrites hsucceeds hmirroring
  obtain ⟨m, hm⟩ := hdumped hdated
  obtain ⟨c, hc, hinterval⟩ := hdump m hm
  exact ⟨rfl, hsilent, (hsame _ hsilent).trans hmirroring, hsucceeds, hmirroring, hdated, newest, m,
    c, hnewest, hwritten, hm, hc, hinterval⟩

end UsageWatch
