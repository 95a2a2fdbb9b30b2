import UsageWatch.Proofs.ServerRun
import UsageWatch.Proofs.UsageText
/-!
# The usage that a server shows

A server keeps the usage that its newest regular event handed back beside the
profiler, whose collection of periodic records grows and evicts on its own. The
two stay in step whatever reaches the server: once a regular event has succeeded
the page shows the usage of the newest periodic record, if the configuration
asks for it at all, and shows it in full (`usage_shown`).
-/

namespace UsageWatch

/-! ## Events that were asked for -/

theorem Query.userSwitch?_ne_periodic {query : Option String} {target : Target}
    (h : Query.userSwitch? query = some target) : target ≠ .periodic := by
  unfold Query.userSwitch? at h
  obtain ⟨values, -, h⟩ := Option.bind_eq_some_iff.mp h
  split at h
  · obtain ⟨origin, -, h⟩ := Option.bind_eq_some_iff.mp h
    obtain ⟨new, -, h⟩ := Option.bind_eq_some_iff.mp h
    cases h
    exact Target.noConfusion
  · cases h

theorem Query.custom?_ne_periodic {query : Option String} {target : Target} {state : SystemState}
    (h : Query.custom? query = some (target, state)) : target ≠ .periodic := by
  unfold Query.custom? at h
  obtain ⟨values, -, h⟩ := Option.bind_eq_some_iff.mp h
  split at h
  · obtain ⟨mode, -, h⟩ := Option.bind_eq_some_iff.mp h
    cases h
    exact Target.noConfusion
  · cases h

/-- Nobody can ask for a periodic event. -/
theorem Incident.target_ne_periodic {method uri : String} {now : Timestamp} {event : Event}
    (h : (Incident.request method uri now).event? = some event) : event.target ≠ .periodic := by
  simp only [event?] at h
  split at h
  · obtain ⟨⟨target, state⟩, hjoin, rfl⟩ := Option.map_eq_some_iff.mp h
    have hrequest := Option.join_eq_some_iff.mp hjoin
    unfold Server.request? at hrequest
    split at hrequest
    · cases hrequest
      exact Target.noConfusion
    · obtain ⟨switch, hswitch, hpair⟩ := Option.map_eq_some_iff.mp (Option.some.inj hrequest)
      cases hpair
      exact Query.userSwitch?_ne_periodic hswitch
    · exact Query.custom?_ne_periodic (Option.some.inj hrequest)
    · cases hrequest
  · cases h

namespace Server

/-! ## One event -/

variable {s : Server} {config : Config} {ticked : Bool}

/-- The usage held outside the profiler is that of its newest periodic record, if
usage is mirrored at all, and there is one once a regular event has succeeded. -/
structure InStep (config : Config) (ticked : Bool) (s : Server) : Prop where
  configured : s.profiler.config = config
  mirroring : s.profiler.mirroring = config.mirrorUsage
  usage : s.usage =
    if config.mirrorUsage then
      s.profiler.latestPeriodic?.map (·.usage config.intervals.periodic)
    else none
  ticked : s.profiler.latestPeriodic?.isSome = ticked

structure SameUsage (s next : Server) : Prop where
  config : next.profiler.config = s.profiler.config
  mirroring : next.profiler.mirroring = s.profiler.mirroring
  usage : next.usage = s.usage
  latestPeriodic? : next.profiler.latestPeriodic? = s.profiler.latestPeriodic?

theorem sameUsage_complete_of_ne (s : Server) {event : Event} (h : event.target ≠ .periodic)
    (sampled : Except ProfilerError Sample) : s.SameUsage (s.complete event sampled).1 := by
  obtain ⟨target, time, state⟩ := event
  cases sampled <;> cases target <;> first | exact ⟨rfl, rfl, rfl, rfl⟩ | exact absurd rfl h

theorem sameUsage_complete_error (s : Server) (event : Event) (e : ProfilerError) :
    s.SameUsage (s.complete event (.error e)).1 := by
  obtain ⟨target, time, state⟩ := event
  cases target <;> exact ⟨rfl, rfl, rfl, rfl⟩

theorem sameUsage_clearCustom (s : Server) :
    s.SameUsage { s with profiler := s.profiler.clearCustom } := ⟨rfl, rfl, rfl, rfl⟩

theorem sameUsage_advance (s : Server) : s.SameUsage s.advance := ⟨rfl, rfl, rfl, rfl⟩

theorem SameUsage.trans {next last : Server} (h : s.SameUsage next) (hlast : next.SameUsage last) :
    s.SameUsage last where
  config := hlast.config.trans h.config
  mirroring := hlast.mirroring.trans h.mirroring
  usage := hlast.usage.trans h.usage
  latestPeriodic? := hlast.latestPeriodic?.trans h.latestPeriodic?

theorem InStep.of_sameUsage (h : s.InStep config ticked) {next : Server} (hnext : s.SameUsage next) :
    next.InStep config ticked where
  configured := hnext.config.trans h.configured
  mirroring := hnext.mirroring.trans h.mirroring
  usage := by rw [hnext.usage, hnext.latestPeriodic?, h.usage]
  ticked := by rw [hnext.latestPeriodic?, h.ticked]

theorem InStep.complete_tick (h : s.InStep config ticked) (now : Timestamp) (sample : Sample) :
    (s.complete ⟨.periodic, now, .normal⟩ (.ok sample)).1.InStep config true := by
  let r := s.profiler.recordOf ⟨.periodic, now, .normal⟩ sample
  have hlatest : (s.complete ⟨.periodic, now, .normal⟩ (.ok sample)).1.profiler.latestPeriodic? =
      some r := Collection.last?_append _ _ _
  have husage : (s.complete ⟨.periodic, now, .normal⟩ (.ok sample)).1.usage =
      (if s.profiler.mirroring && true then some (r.usage s.profiler.config.intervals.periodic)
        else none).or s.usage := rfl
  refine ⟨h.configured, h.mirroring, ?_, by rw [hlatest, Option.isSome_some]⟩
  rw [husage, hlatest, h.mirroring, h.usage, h.configured]
  cases config.mirrorUsage <;> rfl

/-! ## Runs -/

def tickSucceeds (s : Server) : Incident → Bool
  | .tick now => (s.advance.collect ⟨.periodic, now, .normal⟩).2.isOk
  | .request .. => false

def tickSucceedsIn : Server → List Incident → Bool
  | _, [] => false
  | s, incident :: rest => s.tickSucceeds incident || (s.handle incident).1.tickSucceedsIn rest

theorem handle_tick (s : Server) (now : Timestamp) :
    (s.tickSucceeds (.tick now) = false ∧ ∃ e, (s.handle (.tick now)).1 =
        (s.advance.complete ⟨.periodic, now, .normal⟩ (.error e)).1) ∨
      (s.tickSucceeds (.tick now) = true ∧ ∃ sample, (s.handle (.tick now)).1 =
        (s.advance.complete ⟨.periodic, now, .normal⟩ (.ok sample)).1) := by
  have hhandle : (s.handle (.tick now)).1 =
      (s.advance.complete ⟨.periodic, now, .normal⟩ s.advance.source.sample).1 := rfl
  have hticks : s.tickSucceeds (.tick now) =
      (s.advance.complete ⟨.periodic, now, .normal⟩ s.advance.source.sample).2.isOk := rfl
  rw [hhandle, hticks]
  cases s.advance.source.sample with
  | error e => exact .inl ⟨rfl, e, rfl⟩
  | ok sample => exact .inr ⟨rfl, sample, rfl⟩

theorem sameUsage_handle {incident : Incident} (h : s.tickSucceeds incident = false) :
    s.SameUsage (s.handle incident).1 := by
  cases incident with
  | tick now =>
    rcases s.handle_tick now with ⟨-, e, hnext⟩ | ⟨hticks, -⟩
    · rw [hnext]
      exact s.sameUsage_advance.trans (s.advance.sameUsage_complete_error _ e)
    · cases h.symm.trans hticks
  | request method uri now =>
    cases hevent : Incident.event? (.request method uri now) with
    | none =>
      rcases handle_of_no_event hevent s with hsame | hcleared
      · rw [hsame]
        exact ⟨rfl, rfl, rfl, rfl⟩
      · rw [hcleared]
        exact s.sameUsage_clearCustom
    | some event =>
      rw [handle_of_event hevent]
      have htarget := Incident.target_ne_periodic hevent
      exact s.sameUsage_advance.trans (s.advance.sameUsage_complete_of_ne htarget _)

theorem sameUsage_run : ∀ (incidents : List Incident) {s : Server},
    s.tickSucceedsIn incidents = false → s.SameUsage (s.run incidents).1
  | [], _, _ => ⟨rfl, rfl, rfl, rfl⟩
  | incident :: rest, s, h => by
    obtain ⟨hfirst, hrest⟩ := Bool.or_eq_false_iff.mp h
    exact (sameUsage_handle hfirst).trans (sameUsage_run rest hrest)

theorem InStep.handle (h : s.InStep config ticked) (incident : Incident) :
    (s.handle incident).1.InStep config (ticked || s.tickSucceeds incident) := by
  -- Only a regular event that succeeds moves the two sides, and it moves both.
  cases hticks : s.tickSucceeds incident with
  | false =>
    rw [Bool.or_false]
    exact h.of_sameUsage (sameUsage_handle hticks)
  | true =>
    rw [Bool.or_true]
    cases incident with
    | request method uri now => cases hticks
    | tick now =>
      rcases s.handle_tick now with ⟨hfails, -⟩ | ⟨-, sample, hnext⟩
      · cases hticks.symm.trans hfails
      · rw [hnext]
        have hadvance : s.advance.InStep config ticked := h.of_sameUsage s.sameUsage_advance
        exact hadvance.complete_tick now sample

theorem InStep.run : ∀ (incidents : List Incident) {s : Server} {ticked : Bool},
    s.InStep config ticked → (s.run incidents).1.InStep config (ticked || s.tickSucceedsIn incidents)
  | [], s, ticked, h => by
    rw [tickSucceedsIn, Bool.or_false]
    exact h
  | incident :: rest, s, ticked, h => by
    rw [tickSucceedsIn, ← Bool.or_assoc]
    exact InStep.run rest (h.handle incident)

theorem inStep_booted (config : Config) (data : ReplayData) (startedAt : Timestamp) :
    (booted config data startedAt).InStep config false := by
  let s := idle config data startedAt
  have htarget : (⟨.bootTime, startedAt, .normal⟩ : Event).target ≠ .periodic := Target.noConfusion
  have hboot := s.sameUsage_complete_of_ne htarget s.source.sample
  have hlatest : (booted config data startedAt).profiler.latestPeriodic? = none :=
    hboot.latestPeriodic?
  refine ⟨config_booted, ?_, ?_, by rw [hlatest, Option.isSome_none]⟩
  · exact congrArg Config.mirrorUsage hboot.config
  · rw [hlatest]
    refine hboot.usage.trans ?_
    cases config.mirrorUsage <;> rfl

/-! ## The page -/

theorem respond_usage {uri : String} (h : (RequestTarget.parse uri).path = "/resource-usage")
    (s : Server) (now : Timestamp) : (s.respond "GET" uri now).2 = s.resourceUsage := by
  have hpage : s.page? (RequestTarget.parse uri).path now = some s.resourceUsage := by
    rw [h]
    rfl
  rw [respond_page hpage]

theorem SameUsage.respond_usage {next : Server} (hnext : s.SameUsage next) {uri : String}
    (h : (RequestTarget.parse uri).path = "/resource-usage") (now later : Timestamp) :
    (next.respond "GET" uri later).2 = (s.respond "GET" uri now).2 := by
  rw [Server.respond_usage h, Server.respond_usage h]
  unfold resourceUsage
  rw [hnext.usage]

theorem InStep.respond_usage (hs : s.InStep config ticked) {uri : String}
    (h : (RequestTarget.parse uri).path = "/resource-usage") (now : Timestamp) :
    (config.mirrorUsage = false ∨ ticked = false →
      (s.respond "GET" uri now).2 = .plain 404 "No resource usage collected yet\n") ∧
    (config.mirrorUsage = true → ticked = true → ∃ newest,
      s.profiler.latestPeriodic? = some newest ∧
        (s.respond "GET" uri now).2 = ⟨200, some "application/json",
          .text (newest.usage config.intervals.periodic).toJson.compact⟩) := by
  have husage := hs.usage
  have hticked := hs.ticked
  rw [Server.respond_usage h]
  unfold resourceUsage
  constructor
  · intro hnone
    have hempty : s.usage = none := by
      rcases hnone with hoff | hnever
      · rw [husage, if_neg (by simp [hoff])]
      · rw [hnever, Option.isSome_eq_false_iff, Option.isNone_iff_eq_none] at hticked
        rw [husage, hticked, Option.map_none, ite_self]
    rw [hempty]
  · intro hon hever
    rw [hever, Option.isSome_iff_exists] at hticked
    obtain ⟨newest, hnewest⟩ := hticked
    rw [if_pos hon, hnewest, Option.map_some] at husage
    exact ⟨newest, hnewest, by rw [husage]⟩

end Server

/-- **Usage.** With a valid configuration a server starts up, and then whatever
may reach it the page with the usage answers with that of the newest periodic
record, once a regular event has succeeded and if usage is mirrored. What is
answered reads back as that usage, figure by figure. Nothing but the success of a
regular event changes the answer, and so no event of another kind and no failure
does. -/
theorem usage_shown (config : Config) (hvalid : config.validate = .ok ()) (data : ReplayData)
    (startedAt : Timestamp) :
    ∃ started, Server.start config (.ok data) startedAt = .ok started ∧
      ∀ (incidents : List Incident) (uri : String) (now : Timestamp),
        (RequestTarget.parse uri).path = "/resource-usage" →
        let s := (started.run incidents).1
        let answer := (s.respond "GET" uri now).2
        (config.mirrorUsage = false ∨ started.tickSucceedsIn incidents = false →
          answer = .plain 404 "No resource usage collected yet\n") ∧
        (config.mirrorUsage = true → started.tickSucceedsIn incidents = true → ∃ newest body,
          s.profiler.latestPeriodic? = some newest ∧
            answer = ⟨200, some "application/json", .text body⟩ ∧
            body = (newest.usage config.intervals.periodic).toJson.compact ∧
            ResourceUsage.parse? body = some (newest.usage config.intervals.periodic)) ∧
        (∀ (between : List Incident) (later : Timestamp), s.tickSucceedsIn between = false →
          ((s.run between).1.respond "GET" uri later).2 = answer) ∧
        ∀ (event : Event) (sampled : Except ProfilerError Sample) (later : Timestamp),
          event.target ≠ .periodic ∨ sampled.isOk = false →
            ((s.complete event sampled).1.respond "GET" uri later).2 = answer := by
  refine ⟨Server.booted config data startedAt, Server.start_eq_ok.mpr ⟨hvalid, rfl⟩, ?_⟩
  intro incidents uri now hpath s answer
  have hs := (Server.inStep_booted config data startedAt).run incidents
  rw [Bool.false_or] at hs
  obtain ⟨hnone, hshown⟩ := hs.respond_usage hpath now
  refine ⟨hnone, fun hon hticked => ?_, fun between later hbetween => ?_,
    fun event sampled later hother => ?_⟩
  · obtain ⟨newest, hnewest, hanswer⟩ := hshown hon hticked
    exact ⟨newest, _, hnewest, hanswer, rfl, ResourceUsage.parse?_compact _⟩
  · exact (Server.sameUsage_run between hbetween).respond_usage hpath now later
  · have hcomplete : s.SameUsage (s.complete event sampled).1 := by
      rcases hother with hother | hfails
      · exact s.sameUsage_complete_of_ne hother sampled
      · cases sampled with
        | error e => exact s.sameUsage_complete_error event e
        | ok sample => cases hfails
    exact hcomplete.respond_usage hpath now later

/-- Before the first regular event there is nothing to show, and after it what a
wake-up event and a clearing of the custom records leave as it is. -/
theorem usage_shown_mirrored :
    let config : Config := { mirrorUsage := true }
    let package : PackageUse :=
      { uid := 1000123, name := "mount", cpuTime := 5, group := { cpuCycles := 7, majorFaults := 3 } }
    let data : ReplayData :=
      ⟨"1", "", [{ packages := [package], system := { cpu := { user := 6, idle := 4 } } }]⟩
    let ticked : List Incident := [.tick ⟨1500000000, by decide, by decide⟩]
    let between : List Incident :=
      [.request "POST" "/collect/wake-up" .epoch, .request "DELETE" "/dump/custom" .epoch]
    let object (members : List String) : String := "\x7b" ++ ",".intercalate members ++ "\x7d"
    let system : List String :=
      ["\"cpu_non_idle_time_millis\":6", "\"cpu_non_idle_cycles\":7", "\"cpu_idle_time_millis\":4",
       "\"context_switches\":0", "\"io_blocked_process_count\":0", "\"total_process_count\":0",
       "\"total_major_page_faults\":3", "\"total_io_read_bytes\":0", "\"total_io_write_bytes\":0"]
    let mount : List String :=
      ["\"uid\":1000123", "\"user_id\":10", "\"package_name\":\"mount\"", "\"cpu_time_millis\":5",
       "\"cpu_cycles\":7"]
    let body : String := object
      ["\"start_time_epoch_millis\":1500", "\"duration_millis\":60000",
       "\"system_summary_usage_stats\":" ++ object system,
       "\"uid_resource_usage_stats\":" ++ ("[" ++ object mount ++ "]")]
    config.validate = .ok () ∧ (RequestTarget.parse "/resource-usage").path = "/resource-usage" ∧
      ∃ started, Server.start config (.ok data) .epoch = .ok started ∧
        (started.respond "GET" "/resource-usage" .epoch).2.status = 404 ∧
        started.tickSucceedsIn ticked = true ∧
        let s := (started.run ticked).1
        s.tickSucceedsIn between = false ∧
          ((s.run between).1.respond "GET" "/resource-usage" .epoch).2 =
            ⟨200, some "application/json", .text body⟩ := by
  intro config package data ticked between object system mount body
  have hvalid : config.validate = .ok () := by rfl
  have hpath : (RequestTarget.parse "/resource-usage").path = "/resource-usage" := by decide
  obtain ⟨started, hstart, hrun⟩ := usage_shown config hvalid data .epoch
  obtain ⟨hnone, -, -, -⟩ := hrun [] "/resource-usage" .epoch hpath
  obtain ⟨-, hshown, hbetween, -⟩ := hrun ticked "/resource-usage" .epoch hpath
  have hbooted : started = Server.booted config data .epoch := (Server.start_eq_ok.mp hstart).2
  have hticked : started.tickSucceedsIn ticked = true := by
    rw [hbooted]
    decide +kernel
  have hquiet : ((started.run ticked).1).tickSucceedsIn between = false := by rfl
  obtain ⟨newest, text, hnewest, hanswer, htext, -⟩ := hshown rfl hticked
  refine ⟨hvalid, hpath, started, hstart, ?_, hticked, hquiet, ?_⟩
  · exact congrArg Response.status (hnone (.inr rfl))
  · have hlatest : (started.run ticked).1.profiler.latestPeriodic?.map (·.usage 60000) =
        some ⟨1500, 60000, ⟨6, 7, 4, 0, 0, 0, 3, 0, 0⟩, [⟨1000123, 10, "mount", 5, 7⟩]⟩ := by
      rw [hbooted]
      decide +kernel
    rw [hnewest, Option.map_some, Option.some.injEq] at hlatest
    have hcompact : (ResourceUsage.toJson ⟨1500, 60000, ⟨6, 7, 4, 0, 0, 0, 3, 0, 0⟩,
        [⟨1000123, 10, "mount", 5, 7⟩]⟩).compact = body := by
      decide +kernel +revert
    have hbody : text = body := by
      rw [htext, ← hcompact, ← hlatest]
    rw [← hbody]
    exact (hbetween between .epoch hquiet).trans hanswer

end UsageWatch
