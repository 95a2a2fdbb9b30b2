import UsageWatch.Error
import UsageWatch.Files
import UsageWatch.Json.Printer
import UsageWatch.Json.Reader
import UsageWatch.Sample.Format
/-!
# Replay files

A recorded sequence of samples, kept as indented JSON.
-/

namespace UsageWatch

structure ReplayData where
  version : String
  generatedAt : String
  samples : List Sample
deriving DecidableEq, Repr, Inhabited

namespace ReplayData

def toJson (d : ReplayData) : Json :=
  .ofMembers
    [("version", .ofString d.version), ("generated_at", .ofString d.generatedAt),
     ("samples", .array (d.samples.map Sample.toJson))]

def ofJson? (j : Json) : Option ReplayData := do
  match ← j.fields? [["version"], ["generated_at"], ["samples"]] with
  | [version, generatedAt, samples] =>
    some
      { version := ← Json.required Json.text? version
        generatedAt := ← Json.required Json.text? generatedAt
        samples := ← Json.required (Json.list? Sample.ofJson?) samples }
  | _ => none

def render (d : ReplayData) : String := d.toJson.pretty

def parse? (s : String) : Option ReplayData := (Json.parse? s).bind ofJson?

def load (files : Files) (path : String) : Except ProfilerError ReplayData :=
  let entry := files path
  if !entry.isPresent then .error (.replay ("replay file not found: " ++ path))
  else
    match entry.text? with
    | none => .error (.replay ("failed to read " ++ path))
    | some s =>
      match parse? s with
      | none => .error (.replay ("failed to parse " ++ path))
      | some d => .ok d

end ReplayData

end UsageWatch
