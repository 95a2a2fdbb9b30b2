import UsageWatch.Check
import UsageWatch.Proofs.Replay
import UsageWatch.Proofs.ReplayText
/-!
# What a check foretells

A check validates a configuration, loads a replay file and tries out its first sample;
a replay takes every sample there is. Both succeed on the same files: those that load
and hold a sample, as long as the configuration is valid (`Config.Accepts`).
-/

namespace UsageWatch

def Config.Accepts (config : Config) (data : ReplayData) : Prop :=
  config.validate = .ok () ∧ data.samples ≠ []

/-! ## Checks -/

namespace Check

theorem passed_configuration (config : Config) :
    (configuration config).passed = true ↔ config.validate = .ok () := by
  unfold configuration
  cases config.validate <;> simp

theorem passed_collection (config : Config) (data : ReplayData) (now : Timestamp) :
    (collection config data now).passed = true ↔ config.Accepts data := by
  unfold collection Config.Accepts
  cases hcreate : Profiler.create config with
  | error e =>
    have hinvalid : config.validate ≠ .ok () := fun hvalid => by
      rw [Profiler.create_eq_ok.mpr ⟨hvalid, rfl⟩] at hcreate
      cases hcreate
    simp [hinvalid]
  | ok p =>
    have hvalid := (Profiler.create_eq_ok.mp hcreate).1
    cases hsamples : data.samples with
    | nil =>
      have hsample : (ReplaySource.ofData data).sample = .error (.source .packages .empty) :=
        ReplaySource.sample_eq_error hsamples
      simp [hsample, Profiler.collect]
    | cons first rest =>
      have hsample : (ReplaySource.ofData data).sample = .ok first :=
        ReplaySource.sample_eq_ok (by simp [ReplaySource.ofData, hsamples])
      simp [hsample, Profiler.collect, hvalid]

theorem passed_run (files : Files) (path : String) (config : Config) (now : Timestamp) :
    (run files (some path) config now).passed = true ↔
      ∃ data, ReplayData.load files path = .ok data ∧ config.Accepts data := by
  have hrun : (run files (some path) config now).passed =
      ((configuration config).passed && (replayFile files path config now).passed) := rfl
  rw [hrun, Bool.and_eq_true, passed_configuration, replayFile]
  cases ReplayData.load files path with
  | error e => simp
  | ok data =>
    simp only [passed_collection, Except.ok.injEq, exists_eq_left']
    exact and_iff_right_of_imp And.left

end Check

/-! ## Replays -/

theorem Replay.exists_run_iff {config : Config} {data : ReplayData} (plan : ReplayPlan)
    {start last : Timestamp}
    (hlast : start.later? ((data.samples.length - 1) * config.sampleInterval) = some last) :
    (∃ p, run config data plan start = .ok p) ↔ config.Accepts data := by
  constructor
  · rintro ⟨p, hp⟩
    unfold run Replay.start at hp
    cases hcreate : Profiler.create config with
    | error e => simp [hcreate, bind, Except.bind] at hp
    | ok fresh =>
      refine ⟨(Profiler.create_eq_ok.mp hcreate).1, fun hnil => ?_⟩
      simp [hcreate, hnil, bind, Except.bind, throw, throwThe, MonadExceptOf.throw] at hp
  · rintro ⟨hvalid, hsamples⟩
    obtain ⟨r, hr, -⟩ := run_eq plan hvalid hsamples hlast
    exact ⟨r.profiler, hr⟩

/-- **What a check foretells.** Whatever the configuration, the file and the plan,
a check with a replay file passes exactly if the file loads and can be replayed,
as long as the clock reaches the last sample. -/
theorem check_foretells_replay (files : Files) (path : String) (config : Config) (plan : ReplayPlan)
    (now start : Timestamp)
    (hclock : ∀ data, ReplayData.load files path = .ok data → ∃ last,
      start.later? ((data.samples.length - 1) * config.sampleInterval) = some last) :
    (Check.run files (some path) config now).passed = true ↔
      ∃ data p, ReplayData.load files path = .ok data ∧ Replay.run config data plan start = .ok p := by
  rw [Check.passed_run]
  refine exists_congr fun data => ?_
  rw [exists_and_left]
  refine and_congr_right fun hload => ?_
  obtain ⟨last, hlast⟩ := hclock data hload
  exact (Replay.exists_run_iff plan hlast).symm

/-- The second file holds no sample: its check fails, and so does its replay. -/
theorem check_foretells_replay_two_samples :
    let sample (name : String) : Sample :=
      { packages := [{ uid := 1000123, name, cpuTime := 5, group := { majorFaults := 3 } }] }
    let data : ReplayData := ⟨"1.0", "", [sample "mount", sample "init"]⟩
    let empty : ReplayData := ⟨"1.0", "", []⟩
    let files : Files := fun path =>
      .file (if path = "replay.json" then data.render.toUTF8 else empty.render.toUTF8)
    let plan : ReplayPlan := { packages := .parse "mount", userSwitch := some (0, 10) }
    (Check.run files (some "replay.json") {} .epoch).passed = true ∧
      (∃ p, Replay.run {} data plan .epoch = .ok p) ∧
      (Check.run files (some "empty.json") {} .epoch).passed = false ∧
      ¬∃ p, Replay.run {} empty plan .epoch = .ok p := by
  intro sample data empty files plan
  have hload : ReplayData.load files "replay.json" = .ok data := ReplayData.load_render rfl
  have hnone : ReplayData.load files "empty.json" = .ok empty := ReplayData.load_render rfl
  have hclock : ∀ path, ReplayData.load files path = .ok data ∨ ReplayData.load files path = .ok empty →
      ∀ other, ReplayData.load files path = .ok other → ∃ last,
        Timestamp.epoch.later? ((other.samples.length - 1) * ({} : Config).sampleInterval) =
          some last := by
    rintro path (hpath | hpath) other hother <;> rw [hpath] at hother <;> cases hother
    · exact ⟨⟨60000000000, by decide, by decide⟩, by decide⟩
    · exact ⟨.epoch, by decide⟩
  have hforetells := check_foretells_replay files "replay.json" {} plan .epoch .epoch
    (hclock _ (.inl hload))
  have hwarns := check_foretells_replay files "empty.json" {} plan .epoch .epoch
    (hclock _ (.inr hnone))
  have hpassed : (Check.run files (some "replay.json") {} .epoch).passed = true :=
    (Check.passed_run _ _ _ _).mpr ⟨data, hload, by decide, by decide⟩
  have hfailed : (Check.run files (some "empty.json") {} .epoch).passed ≠ true := by
    rw [Ne, Check.passed_run]
    rintro ⟨other, hother, -, hsamples⟩
    rw [hnone] at hother
    cases hother
    exact hsamples rfl
  obtain ⟨other, p, hother, hp⟩ := hforetells.mp hpassed
  rw [hload] at hother
  cases hother
  refine ⟨hpassed, ⟨p, hp⟩, Bool.eq_false_iff.mpr hfailed, ?_⟩
  rintro ⟨q, hq⟩
  exact hfailed (hwarns.mpr ⟨empty, q, hnone, hq⟩)

end UsageWatch
