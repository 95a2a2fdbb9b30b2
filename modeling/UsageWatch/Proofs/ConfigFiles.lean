import UsageWatch.Config.File
import UsageWatch.Proofs.JsonText
import UsageWatch.Proofs.TomlSettings
import UsageWatch.Proofs.YamlSettings
/-!
# Configuration files that load back

A file that holds what was written of a configuration, in the format of its extension, loads
as this configuration. In TOML that fails if a number is in the upper half of the unsigned
range: it is written like every other one, and loading stops with an error.
-/

namespace UsageWatch

/-! ## Settings in JSON -/

theorem Json.settingReader_readsBack : settingReader.ReadsBack Setting.toJson where
  counter n := by simp [settingReader, Setting.toJson, counter?, word?, Option.filter, n.toNat_lt]
  port n := by simp [settingReader, Setting.toJson, word?, Option.filter, n.toNat_lt]
  flag b := rfl
  text s := rfl
  entries entries := by simp [settingReader, Setting.toJson, ofMembers, entries?]

namespace Config

theorem writable_toJson (c : Config) : c.toJson.Writable := by
  refine .ofMembers fun m hm => ?_
  obtain ⟨⟨key, s⟩, -, rfl⟩ := List.mem_map.mp hm
  cases s with
  | number n => exact .number n
  | flag b => exact .bool b
  | text s => exact .text s
  | numbers entries =>
    refine .ofMembers fun m hm => ?_
    obtain ⟨entry, -, rfl⟩ := List.mem_map.mp hm
    exact .number entry.2

theorem parseJson?_renderJson (c : Config) : parseJson? c.renderJson = some c := by
  rw [parseJson?, renderJson, c.writable_toJson.parse?_pretty, Option.bind_some]
  exact decode?_eq Json.settingReader_readsBack
    (by simp [Json.settingReader, toJson, Json.ofMembers, Json.entries?])

/-! ## Files -/

theorem load_file {files : Files} {path s : String} (h : files path = .file s.toUTF8) :
    load files (some path) =
      match (ConfigFormat.ofPath path).parse? s with
      | some c => .ok c
      | none => .error (.configLoad (path ++ ": cannot be parsed")) := by
  have hpresent : (files path).isPresent = true := by
    rw [h]
    rfl
  have htext : (files path).text? = some s := by rw [h, FileEntry.text?_file]
  have hload : load files (some path) = read files path := if_pos hpresent
  cases hparse : (ConfigFormat.ofPath path).parse? s <;> simp [hload, read, htext, hparse]

theorem parse?_render (c : Config) (format : ConfigFormat) :
    format.parse? (c.render format) = if format = .toml ∧ ¬ c.FitsToml then none else some c := by
  cases format with
  | yaml => exact c.parseYaml?_renderYaml
  | json => exact c.parseJson?_renderJson
  | toml =>
    have hparse : ConfigFormat.toml.parse? (c.render .toml) = if c.FitsToml then some c else none :=
      c.parseToml?_renderToml
    by_cases hfits : c.FitsToml <;> simp [hparse, hfits]

end Config

open Config (load)

/-- Every configuration loads back from the file that it was written to, in YAML also from below
the guide; in TOML it does if and only if all its numbers have a sign bit to spare. -/
theorem rendered_configs_load (c : Config) (files : Files) (path : String) (format : ConfigFormat)
    (hformat : ConfigFormat.ofPath path = format) :
    (files path = .file (c.render format).toUTF8 → load files (some path) =
      if format = .toml ∧ ¬ c.FitsToml then .error (.configLoad (path ++ ": cannot be parsed"))
      else .ok c) ∧
    (format = .yaml → files path = .file c.renderGuided.toUTF8 → load files (some path) = .ok c) := by
  subst hformat
  refine ⟨fun hfile => ?_, fun hyaml hfile => ?_⟩
  · rw [Config.load_file hfile, Config.parse?_render]
    by_cases hlost : ConfigFormat.ofPath path = .toml ∧ ¬ c.FitsToml
    · rw [if_pos hlost, if_pos hlost]
    · rw [if_neg hlost, if_neg hlost]
  · have hparse : (ConfigFormat.ofPath path).parse? c.renderGuided = some c := by
      rw [hyaml]
      exact c.parseYaml?_guided
    rw [Config.load_file hfile, hparse]

/-- A text that needs quotes, and the greatest number that TOML has. -/
theorem rendered_configs_load_quoted :
    let c : Config := { bind := "don't: #1\n", retentionSeconds := 9223372036854775807 }
    load (fun _ => .file (c.render .toml).toUTF8) (some "a/b.toml") = .ok c ∧
      load (fun _ => .file c.renderGuided.toUTF8) (some "c.yml") = .ok c := by
  intro c
  have hfits : ¬ (ConfigFormat.toml = .toml ∧ ¬ c.FitsToml) := by decide +kernel
  have htoml := (rendered_configs_load c (fun _ => .file (c.render .toml).toUTF8) "a/b.toml" .toml
    (by decide +kernel)).1 rfl
  rw [if_neg hfits] at htoml
  exact ⟨htoml, (rendered_configs_load c (fun _ => .file c.renderGuided.toUTF8) "c.yml" .yaml
    (by decide +kernel)).2 rfl rfl⟩

/-- The greatest count of seconds is written like every other one, and not read. -/
theorem rendered_config_lost :
    let c : Config := { retentionSeconds := 18446744073709551615 }
    load (fun _ => .file (c.render .toml).toUTF8) (some "c.toml") =
      .error (.configLoad "c.toml: cannot be parsed") := by
  intro c
  have hlost : ¬ c.FitsToml := by decide +kernel
  have hformat : ConfigFormat.ofPath "c.toml" = .toml := by decide +kernel
  rw [Config.load_file rfl, hformat, Config.parse?_render, if_pos ⟨rfl, hlost⟩]
  rfl

end UsageWatch
