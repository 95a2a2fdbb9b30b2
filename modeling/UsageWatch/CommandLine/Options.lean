import UsageWatch.Address
import UsageWatch.CommandLine.Grammar
import UsageWatch.Config.File
import UsageWatch.LogLevel
/-!
# Options

The command line of the program: settings that override the configuration file,
what to do with the configuration instead of running, and commands with options
of their own.
-/

namespace UsageWatch

structure CheckOptions where
  replay : Option String := none
deriving DecidableEq, Repr

structure ConfigOptions where
  output : Option String := none
  format : ConfigFormat := .yaml
  commented : Bool := false
deriving DecidableEq, Repr

structure GenerateOptions where
  output : String := "replay.json"
  samples : UInt64 := 10
  packages : UInt64 := 20
  processes : UInt64 := 4
deriving DecidableEq, Repr

structure ReplayOptions where
  file : String
  messageOutput : Option String := none
  packages : Option String := none
  userSwitch : Option String := none
deriving DecidableEq, Repr

inductive Command where
  | check (o : CheckOptions)
  | config (o : ConfigOptions)
  | generate (o : GenerateOptions)
  | replay (o : ReplayOptions)
deriving DecidableEq, Repr

structure Options where
  port : Option UInt16 := none
  bind : Option IpAddress := none
  logLevel : Option LogLevel := none
  config : Option String := none
  withoutConfig : Bool := false
  showConfig : Bool := false
  configFormat : ConfigFormat := .yaml
  checkConfig : Bool := false
  packagesPerList : Option UInt64 := none
  processesPerPackage : Option UInt64 := none
  maxSessions : Option UInt64 := none
  periodicCapacity : Option UInt64 := none
  retentionSeconds : Option UInt64 := none
  sampleSeconds : Option UInt64 := none
  mirrorUsage : Bool := false
  replayFile : Option String := none
  command : Option Command := none
deriving DecidableEq, Repr

namespace CommandLine

/-! ## Values -/

def counter? (s : String) : Option UInt64 := (Text.readCounter s.toList).toOption

/-- A number below 65536. Either sign may stand before it, a minus sign only
before zero. -/
def port? (s : String) : Option UInt16 :=
  let below (limit : Nat) (digits : List Char) : Option UInt16 :=
    if digits.head? = some '+' then none
    else (Text.readNumeral limit digits).toOption.map UInt16.ofNat
  match s.toList with
  | '+' :: digits => below 65535 digits
  | '-' :: digits => below 0 digits
  | digits => below 65535 digits

/-! ## Grammars -/

variable {σ : Type}

/-- Options of every command. The help on the program has a short form as well. -/
def standardOptions (helpAbout : String) : List (OptionRule σ) :=
  [{ name := "help", letter := some 'h', about := helpAbout, effect := .help },
   { name := "version", letter := some 'V', about := "Print version", effect := .version }]

def formatNames : List String := ConfigFormat.all.map ConfigFormat.name

def checkGrammar : Grammar CheckOptions where
  options :=
    { name := "replay", letter := some 'r', about := "Replay file to load and run through one collection"
      effect := .value (.path fun v o => { o with replay := some v }) }
    :: standardOptions "Print help"

def configGrammar : Grammar ConfigOptions where
  options :=
    [{ name := "output", letter := some 'o', about := "Output file path (\"-\" for stdout)"
       effect := .value (.path fun v o => { o with output := some v }) },
     { name := "format", about := "Output format", default := some "yaml", choices := formatNames
       effect := .value (.word ConfigFormat.ofName? fun v o => { o with format := v }) },
     { name := "commented", about := "Include comments and examples"
       effect := .flag fun o => { o with commented := true } }]
    ++ standardOptions "Print help"

def generateGrammar : Grammar GenerateOptions where
  options :=
    [{ name := "output", letter := some 'o', about := "Output file path", default := some "replay.json"
       effect := .value (.path fun v o => { o with output := v }) },
     { name := "samples", about := "Number of sampling intervals", default := some "10"
       effect := .value (.parsed counter? fun v o => { o with samples := v }) },
     { name := "uids", about := "Number of UIDs per interval", default := some "20"
       effect := .value (.parsed counter? fun v o => { o with packages := v }) },
     { name := "processes-per-uid", about := "Maximum processes per UID", default := some "4"
       effect := .value (.parsed counter? fun v o => { o with processes := v }) }]
    ++ standardOptions "Print help"

def replayGrammar : Grammar ReplayOptions where
  options :=
    [{ name := "proto-output", about := "Also write the protobuf dump to this file"
       effect := .value (.path fun v o => { o with messageOutput := some v }) },
     { name := "packages"
       about := "Run custom collections restricted to these packages (comma-separated)"
       effect := .value (.text fun v o => { o with packages := some v }) },
     { name := "user-switch", about := "Switch users before the last sample, as FROM:TO"
       effect := .value (.text fun v o => { o with userSwitch := some v }) }]
    ++ standardOptions "Print help"
  operands := [⟨"FILE", "Replay file (JSON)", .path fun v o => { o with file := v }⟩]

def commandNames : List String := ["check", "config", "generate-testdata", "replay", "help"]

/-- Where the server listens, how much is logged, and which file is read. -/
def sourceOptions : List (OptionRule Options) :=
  [{ name := "port", letter := some 'p', about := "HTTP listen port"
     effect := .value (.parsed port? fun v o => { o with port := some v }) },
   { name := "bind", about := "Bind to specific interface/IP"
     effect := .value (.parsed IpAddress.parse? fun v o => { o with bind := some v }) },
   { name := "log-level", about := "Log level (overrides config)", choices := LogLevel.all.map LogLevel.name
     effect := .value (.word LogLevel.ofName? fun v o => { o with logLevel := some v }) },
   { name := "config", letter := some 'c', about := "Config file (YAML/JSON/TOML)"
     effect := .value (.path fun v o => { o with config := some v }) },
   { name := "no-config", about := "Disable all config file loading"
     effect := .flag fun o => { o with withoutConfig := true } },
   { name := "show-config", about := "Print effective merged config and exit"
     effect := .flag fun o => { o with showConfig := true } },
   { name := "config-format", about := "Output format for --show-config", default := some "yaml"
     choices := formatNames
     effect := .value (.word ConfigFormat.ofName? fun v o => { o with configFormat := v }) },
   { name := "check-config", about := "Validate config and exit (return code 1 on error)"
     effect := .flag fun o => { o with checkConfig := true } }]

/-- Bounds of the profiler and what a server reads from. -/
def boundOptions : List (OptionRule Options) :=
  [{ name := "top-n-category", about := "Top-N packages kept per category (override config)"
     effect := .value (.parsed counter? fun v o => { o with packagesPerList := some v }) },
   { name := "top-n-subcategory", about := "Top-N processes kept per package (override config)"
     effect := .value (.parsed counter? fun v o => { o with processesPerPackage := some v }) },
   { name := "max-user-switch-events"
     about := "Maximum concurrent user-switch sessions (override config)"
     effect := .value (.parsed counter? fun v o => { o with maxSessions := some v }) },
   { name := "periodic-buffer-size"
     about := "Periodic collection capacity in records (override config)"
     effect := .value (.parsed counter? fun v o => { o with periodicCapacity := some v }) },
   { name := "retention-secs"
     about := "Retention of boot-time, wake-up and user-switch records in seconds"
     effect := .value (.parsed counter? fun v o => { o with retentionSeconds := some v }) },
   { name := "sample-interval-secs"
     about := "Seconds between periodic collections in server mode"
     effect := .value (.parsed counter? fun v o => { o with sampleSeconds := some v }) },
   { name := "sync-resource-usage"
     about := "Mirror resource usage stats after service registration"
     effect := .flag fun o => { o with mirrorUsage := true } },
   { name := "replay-file", letter := some 't'
     about := "Replay file used as delta source in server mode (synthetic data if absent)"
     effect := .value (.path fun v o => { o with replayFile := some v }) }]

def mainGrammar (helpAbout : String) : Grammar Options where
  options := sourceOptions ++ boundOptions ++ standardOptions helpAbout
  commands := commandNames

def helpOn : List String → Stop
  | [] => .help none true
  | name :: rest =>
    if commandNames.contains name then
      rest.head?.elim (.help (some name) true) fun word => .error (.unknownCommand word)
    else .error (.unknownCommand name)

def readCommand (name : String) (words : List String) : Except Stop Command :=
  let command : Except Stop Command :=
    match name with
    | "check" => (checkGrammar.parse {} words).map .check
    | "config" => (configGrammar.parse {} words).map .config
    | "generate-testdata" => (generateGrammar.parse {} words).map .generate
    | _ => (replayGrammar.parse { file := "" } words).map .replay
  if name = "help" then .error (helpOn words) else command.mapError (Stop.within name)

end CommandLine

namespace Options

/-- Reads a command line. What is wrong behind a command is reported before a
value in front of it. -/
def parse (words : List String) : Except CommandLine.Stop Options := do
  let g := CommandLine.mainGrammar "Print help"
  let (p, rest) ← g.read { result := {} } words
  let command ← rest.mapM fun (name, words) => CommandLine.readCommand name words
  let options ← g.finish p
  pure { options with command }

def override (o : Options) (c : Config) : Config :=
  { c with
    bind := o.bind.elim c.bind IpAddress.text
    port := o.port.getD c.port
    logLevel := o.logLevel.elim c.logLevel LogLevel.name
    packagesPerList := o.packagesPerList.getD c.packagesPerList
    processesPerPackage := o.processesPerPackage.getD c.processesPerPackage
    maxSessions := o.maxSessions.getD c.maxSessions
    periodicCapacity := o.periodicCapacity.getD c.periodicCapacity
    retentionSeconds := o.retentionSeconds.getD c.retentionSeconds
    sampleSeconds := o.sampleSeconds.getD c.sampleSeconds
    mirrorUsage := o.mirrorUsage || c.mirrorUsage }

/-- The configuration that holds: the command line before the file, and both
before the defaults. -/
def effectiveConfig (o : Options) (files : Files) : Except ProfilerError Config := do
  let c ← if o.withoutConfig then pure {} else Config.load files o.config
  pure (o.override c)

def configPaths (o : Options) : List String :=
  if o.withoutConfig then [] else o.config.elim Config.defaultPaths ([·])

def replayPaths (o : Options) : List String :=
  match o.command with
  | some (.check c) => c.replay.toList
  | some (.replay r) => [r.file]
  | some _ => []
  | none => o.replayFile.toList

def effectiveLevel (o : Options) (c : Config) : LogLevel := .effective o.logLevel c.logLevel

end Options

end UsageWatch
