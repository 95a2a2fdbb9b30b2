import UsageWatch.Check
import UsageWatch.CommandLine.Help
import UsageWatch.Replay.Run
import UsageWatch.Server
/-!
# Runs of the program

What a run with a command line does, as a value: the text it prints, the file it
then writes, and how it ends. It depends on nothing but its surroundings, so a
run is decided before anything is printed or written.
-/

namespace UsageWatch

structure Surroundings where
  files : Files
  now : Timestamp
  /-- Made-up data of so many samples, packages and processes per package. -/
  synthetic : (samples packages processes : Nat) → ReplayData

structure OutputFile where
  path : String
  content : ByteArray
  /-- What is printed once the file is written. -/
  notice : String := ""

inductive Ending where
  | exit (code : Nat)
  | serve (endpoint : Endpoint) (server : Server)

structure Outcome where
  printed : String := ""
  file : Option OutputFile := none
  /-- Why the run failed. -/
  complaint : Option String := none
  ending : Ending := .exit 0

namespace Outcome

def prints (text : String) : Outcome := { printed := text }

def writes (file : OutputFile) : Outcome := { file := some file }

def fails (reason : String) : Outcome := { complaint := some reason, ending := .exit 1 }

/-- The exit code for an error; times out of range end a run at once. -/
def codeOf : ProfilerError → Nat
  | .noDate | .clockOverflow => 101
  | _ => 1

def ofError (e : ProfilerError) : Outcome :=
  { complaint := some e.message, ending := .exit (codeOf e) }

end Outcome

namespace Program

def name : String := "herakles-perf-profiler"

def versionText (command : Option String) : String :=
  name ++ command.elim "" ("-" ++ ·) ++ " 0.1.0\n"

def unlines (lines : List String) : String := String.join (lines.map (· ++ "\n"))

/-! ## Commands -/

def check (s : Surroundings) (c : Config) (o : CheckOptions) : Outcome :=
  let result := Check.run s.files o.replay c s.now
  let title :=
    ["🔍 Herakles Performance Profiler - Check", "========================================"]
  let verdict := if result.passed then "✅ All checks passed" else "❌ Some checks failed"
  { printed := unlines (title ++ result.lines ++ ["", verdict])
    ending := .exit (if result.passed then 0 else 1) }

/-- Writes the default configuration; only YAML comes with its guide. -/
def config (o : ConfigOptions) : Outcome :=
  let c : Config := {}
  let text :=
    if o.commented ∧ o.format = .yaml then c.renderGuided else c.render o.format
  let path := o.output.getD "herakles-perf-profiler.yaml"
  if path = "-" then .prints text
  else .writes ⟨path, text.toUTF8, "✅ Configuration written to: " ++ path ++ "\n"⟩

def generate (s : Surroundings) (o : GenerateOptions) : Outcome :=
  let data := s.synthetic o.samples.toNat o.packages.toNat o.processes.toNat
  let notice := "✅ Generated replay data: " ++ toString data.samples.length ++ " samples x "
    ++ toString o.packages.toNat ++ " UIDs in " ++ o.output ++ "\n"
  .writes ⟨o.output, data.render.toUTF8, notice⟩

def replayed (s : Surroundings) (c : Config) (file : String) (plan : ReplayPlan) :
    Except ProfilerError Profiler := do
  let data ← ReplayData.load s.files file
  Replay.run c data plan s.now

def reported (c : Config) (p : Profiler) (messageOutput : Option String) : Outcome :=
  match p.report? with
  | none => .ofError .noDate
  | some report =>
    match messageOutput with
    | none => .prints report
    | some path =>
      match p.appendMessage c.intervals [] with
      | .error e => { Outcome.ofError e with printed := report }
      | .ok bytes => { printed := report, file := some ⟨path, ⟨bytes.toArray⟩, ""⟩ }

/-- A plan that cannot be read is reported before the file is looked at. -/
def replay (s : Surroundings) (c : Config) (o : ReplayOptions) : Outcome :=
  match ReplayPlan.parse o.packages o.userSwitch with
  | .error e => .fails e.message
  | .ok plan =>
    match replayed s c o.file plan with
    | .error e => .ofError e
    | .ok p => reported c p o.messageOutput

def command (s : Surroundings) (c : Config) : Command → Outcome
  | .check o => check s c o
  | .config o => config o
  | .generate o => generate s o
  | .replay o => replay s c o

/-! ## Serving -/

/-- What a server reads from: a replay file, or an hour of made-up samples. -/
def serverData (s : Surroundings) (replayFile : Option String) : Except ProfilerError ReplayData :=
  match replayFile with
  | some path => ReplayData.load s.files path
  | none => .ok (s.synthetic 60 20 4)

def serve (s : Surroundings) (c : Config) (replayFile : Option String) : Outcome :=
  match c.validate with
  | .error e => .fails ("❌ Configuration invalid: " ++ e.message)
  | .ok () =>
    match Endpoint.ofHost? c.bind c.port with
    | none => .fails "invalid socket address syntax"
    | some endpoint =>
      match Server.start c (serverData s replayFile) s.now with
      | .error e => .ofError e
      | .ok server => { ending := .serve endpoint server }

/-! ## The whole run -/

/-- Looking at the configuration comes before every command. -/
def carryOut (s : Surroundings) (o : Options) (c : Config) : Outcome :=
  if o.checkConfig then
    match c.validate with
    | .error e => .fails ("❌ Configuration invalid: " ++ e.message)
    | .ok () => .prints "✅ Configuration is valid\n"
  else if o.showConfig then .prints (c.render o.configFormat ++ "\n")
  else
    match o.command with
    | some command => Program.command s c command
    | none => serve s c o.replayFile

def stopped : CommandLine.Stop → Outcome
  | .error e => { complaint := some e.message, ending := .exit 2 }
  | .help command full => .prints (CommandLine.helpText name Health.footer command full)
  | .version command => .prints (versionText command)

def paths (words : List String) : List String :=
  match Options.parse words with
  | .error _ => []
  | .ok o => o.configPaths ++ o.replayPaths

def run (s : Surroundings) (words : List String) : Outcome :=
  match Options.parse words with
  | .error stop => stopped stop
  | .ok o =>
    match o.effectiveConfig s.files with
    | .error e => .ofError e
    | .ok c => carryOut s o c

end Program

end UsageWatch
