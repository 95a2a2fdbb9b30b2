import UsageWatch.Config.Json
import UsageWatch.Config.Toml
import UsageWatch.Config.Yaml
import UsageWatch.Files
/-!
# Configuration files

A configuration is kept in one of three formats, told by the extension of its
file. Without a given path it is looked for in fixed places.
-/

namespace UsageWatch

inductive ConfigFormat where
  | yaml
  | json
  | toml
deriving DecidableEq, Repr, Inhabited

namespace ConfigFormat

def all : List ConfigFormat := [yaml, json, toml]

def name : ConfigFormat → String
  | yaml => "yaml"
  | json => "json"
  | toml => "toml"

def ofName? (s : String) : Option ConfigFormat := all.find? (·.name = s)

/-- The format of a file; any other extension stands for YAML. -/
def ofPath (path : String) : ConfigFormat :=
  match extension? path with
  | some "json" => json
  | some "toml" => toml
  | _ => yaml

def parse? : ConfigFormat → String → Option Config
  | yaml => Config.parseYaml?
  | json => Config.parseJson?
  | toml => Config.parseToml?

end ConfigFormat

namespace Config

def render (c : Config) : ConfigFormat → String
  | .yaml => c.renderYaml
  | .json => c.renderJson
  | .toml => c.renderToml

def renderGuided (c : Config) : String := guide ++ "\n" ++ c.renderYaml

def defaultPaths : List String :=
  ["/etc/herakles/perf-profiler.yaml", "/etc/herakles/perf-profiler.yml",
   "/etc/herakles/perf-profiler.json", "./herakles-perf-profiler.yaml",
   "./herakles-perf-profiler.yml", "./herakles-perf-profiler.json"]

def read (files : Files) (path : String) : Except ProfilerError Config :=
  match (files path).text? with
  | none => .error (.configLoad (path ++ ": cannot be read"))
  | some s =>
    match (ConfigFormat.ofPath path).parse? s with
    | some c => .ok c
    | none => .error (.configLoad (path ++ ": cannot be parsed"))

/-- The configuration at a path, or in the first default place that exists, or
else the default configuration. -/
def load (files : Files) : (path : Option String) → Except ProfilerError Config
  | some path =>
    if (files path).isPresent then read files path
    else .error (.configLoad ("config file not found: " ++ path))
  | none =>
    match defaultPaths.find? fun path => (files path).isPresent with
    | some path => read files path
    | none => .ok {}

end Config

end UsageWatch
