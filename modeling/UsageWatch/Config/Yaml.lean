import UsageWatch.Config.Settings
import UsageWatch.Yaml.Document
import UsageWatch.Yaml.Scalar.Printer
/-!
# Configurations in YAML

Numbers and truth values have to be plain scalars, or literal ones with the tag
of their kind. Any scalar is a text. A document without content leaves every
setting at its default.
-/

namespace UsageWatch

namespace Yaml

/-- The tags that literal scalars of a kind may have. -/
def intTag : List Char := "tag:yaml.org,2002:int".toList

def boolTag : List Char := "tag:yaml.org,2002:bool".toList

/-- The text of a scalar that may be something else than a text. -/
def untyped? (tag : List Char) : Node → Option (List Char)
  | .scalar _ _ .plain s => some s
  | .scalar _ (some t) .literal s => if t = tag then some s else none
  | _ => none

def word? (bits : Nat) (n : Node) : Option Nat :=
  ((untyped? intTag n).bind natural?).filter (· < Nat.pow 2 bits)

def text? : Node → Option String
  | .scalar _ _ _ s => some (String.ofList s)
  | _ => none

/-- The entries of a mapping, with texts for keys. An empty plain scalar has none. -/
def entries? (document : Node) : Node → Option (Entries Node)
  | .mapping _ entries =>
    some (.named (entries.map fun (k, v) => ((document.resolve? k).bind text?, v)))
  | .scalar _ _ .plain [] => some (.named [])
  | _ => none

/-- Reads the values of a document, in which aliases stand for other nodes. -/
def settingReader (document : Node) : SettingReader Node where
  counter n := do (word? 64 (← document.resolve? n)).map UInt64.ofNat
  port n := do (word? 16 (← document.resolve? n)).map UInt16.ofNat
  flag n := do boolean? (← untyped? boolTag (← document.resolve? n))
  text n := do text? (← document.resolve? n)
  entries n := do entries? document (← document.resolve? n)

def margin : List Char := [' ', ' ']

/-- A setting on a line of its own, or a group on several. -/
def settingText (key : String) : Setting → String
  | .number n => key ++ ": " ++ toString n ++ "\n"
  | .flag b => key ++ ": " ++ (if b then "true" else "false") ++ "\n"
  | .text s => key ++ ": " ++ String.ofList (writeText margin s.toList)
  | .numbers entries =>
    key ++ ":\n" ++ String.join (entries.map fun (k, n) => "  " ++ k ++ ": " ++ toString n ++ "\n")

end Yaml

namespace Config

def renderYaml (c : Config) : String :=
  String.join (c.settings.map fun (k, s) => Yaml.settingText k s)

def parseYaml? (s : String) : Option Config := do
  match ← Yaml.parse? s with
  | some root => decode? (Yaml.settingReader root) root
  | none => some {}

/-- What the settings mean, as a comment with their defaults. -/
def guide : String :=
  "# Herakles Performance Profiler Configuration
# ============================================
#
# Ranking
# -------
# top_n_stats_per_category: 10        # Packages kept per category
# top_n_stats_per_subcategory: 5      # Processes kept per package
#
# Collection Caches
# -----------------
# max_user_switch_events: 3           # Concurrent user-switch sessions
# periodic_collection_buffer_size: 180 # Periodic records kept (FIFO)
# system_event_data_cache_duration_secs: 3600 # Boot/wake/user-switch retention
# sync_resource_usage_stats: false    # Mirror resource usage after registration
#
# Server Configuration
# --------------------
# bind: \"0.0.0.0\"                     # Bind IP (0.0.0.0 = all interfaces)
# port: 9216                          # HTTP port
# sample_interval_secs: 60            # Seconds between periodic collections
#
# Logging
# -------
# log_level: \"info\"                   # off, error, warn, info, debug, trace
#
# Collection Intervals (milliseconds, reported in protobuf dumps)
# ---------------------------------------------------------------
# collection_intervals:
#   boottime_interval_millis: 1000
#   periodic_interval_millis: 60000
#   user_switch_interval_millis: 2000
#   wake_up_interval_millis: 2000
#   custom_interval_millis: 10000
"

end Config

end UsageWatch
