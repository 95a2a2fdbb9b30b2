import UsageWatch.Replay.Source
/-!
# Checks

Tries out a configuration and a replay file, and tells line by line what was
found.
-/

namespace UsageWatch

structure CheckResult where
  lines : List String
  passed : Bool
deriving DecidableEq, Repr

namespace Check

def good (s : String) : String := "   ✅ " ++ s

def bad (s : String) : String := "   ❌ " ++ s

def configuration (config : Config) : CheckResult :=
  let title := ["", "⚙️  Checking configuration..."]
  match config.validate with
  | .error e => ⟨title ++ [bad e.message], false⟩
  | .ok () =>
    ⟨title ++
      [good "Configuration is valid",
       good ("Top-N: " ++ toString config.packagesPerList.toNat ++ " packages per category, "
        ++ toString config.processesPerPackage.toNat ++ " processes per package"),
       good ("Caches: " ++ toString config.periodicCapacity.toNat ++ " periodic records, "
        ++ toString config.maxSessions.toNat ++ " user-switch sessions, "
        ++ toString config.retentionSeconds.toNat ++ "s retention")], true⟩

def collection (config : Config) (data : ReplayData) (now : Timestamp) : CheckResult :=
  match Profiler.create config with
  | .error e => ⟨[bad ("Cannot create profiler: " ++ e.message)], false⟩
  | .ok p =>
    match ((p.setMirroring true).collect ⟨.bootTime, now, .normal⟩
        (ReplaySource.ofData data).sample).2 with
    | .error e => ⟨[bad ("Test collection failed: " ++ e.message)], false⟩
    | .ok collected =>
      ⟨[good ("Test collection ranked "
        ++ toString (collected.usage.elim 0 (·.packages.length)) ++ " packages")], true⟩

def replayFile (files : Files) (path : String) (config : Config) (now : Timestamp) : CheckResult :=
  let title := ["", "📁 Checking replay file " ++ path ++ "..."]
  match ReplayData.load files path with
  | .error e => ⟨title ++ [bad e.message], false⟩
  | .ok data =>
    let result := collection config data now
    ⟨title ++ good ("Loaded " ++ toString data.samples.length ++ " samples") :: result.lines,
      result.passed⟩

/-- Every check; the replay file is checked even if the configuration fails. -/
def run (files : Files) (replay : Option String) (config : Config) (now : Timestamp) :
    CheckResult :=
  let first := configuration config
  match replay with
  | none => first
  | some path =>
    let second := replayFile files path config now
    ⟨first.lines ++ second.lines, first.passed && second.passed⟩

end Check

end UsageWatch
