import UsageWatch.Proofs.ReplayText
import UsageWatch.Usage.Format
/-!
# Usage that reads back

What is written of a usage has each of its figures under a name of its own, and so the text
of a usage says what the usage was (`ResourceUsage.parse?_compact`).
-/

namespace UsageWatch

open Json (Writable)

def Json.member? {α : Type} (decode : Json → Option α) (name : String) (j : Json) : Option α :=
  (j.get? name).bind decode

def SystemUsage.ofJson? (j : Json) : Option SystemUsage := do
  some
    { cpuNonIdleTime := ← j.member? Json.counter? "cpu_non_idle_time_millis"
      cpuNonIdleCycles := ← j.member? Json.counter? "cpu_non_idle_cycles"
      cpuIdleTime := ← j.member? Json.counter? "cpu_idle_time_millis"
      contextSwitches := ← j.member? Json.counter? "context_switches"
      blockedProcesses := ← j.member? Json.count? "io_blocked_process_count"
      processes := ← j.member? Json.count? "total_process_count"
      majorFaults := ← j.member? Json.counter? "total_major_page_faults"
      bytesRead := ← j.member? Json.counter? "total_io_read_bytes"
      bytesWritten := ← j.member? Json.counter? "total_io_write_bytes" }

def PackageUsage.ofJson? (j : Json) : Option PackageUsage := do
  some
    { uid := ← j.member? Json.count? "uid"
      user := ← j.member? Json.count? "user_id"
      package := ← j.member? Json.text? "package_name"
      cpuTime := ← j.member? Json.counter? "cpu_time_millis"
      cpuCycles := ← j.member? Json.counter? "cpu_cycles" }

def ResourceUsage.ofJson? (j : Json) : Option ResourceUsage := do
  some
    { startMillis := ← j.member? Json.counter? "start_time_epoch_millis"
      durationMillis := ← j.member? Json.counter? "duration_millis"
      system := ← j.member? SystemUsage.ofJson? "system_summary_usage_stats"
      packages := ← j.member? (Json.list? PackageUsage.ofJson?) "uid_resource_usage_stats" }

def ResourceUsage.parse? (s : String) : Option ResourceUsage := (Json.parse? s).bind ofJson?

/-! ## Members -/

theorem Json.list?_map {α : Type} {toJson : α → Json} {decode : Json → Option α}
    (h : ∀ a, decode (toJson a) = some a) (as : List α) :
    list? decode (.array (as.map toJson)) = some as := by
  have hdecode : decode ∘ toJson = fun a => pure a := funext h
  simp only [list?, items?, Option.bind_eq_bind, Option.bind_some]
  rw [List.mapM_map, hdecode, List.mapM_pure, List.map_id']
  rfl

theorem SystemUsage.ofJson?_toJson (s : SystemUsage) : ofJson? s.toJson = some s := by
  simp [ofJson?, toJson, Json.member?, Json.get?, Json.ofMembers, counter?_counterJson, count?_countJson]

theorem PackageUsage.ofJson?_toJson (p : PackageUsage) : ofJson? p.toJson = some p := by
  have hname : (Json.ofString p.package).text? = some p.package := rfl
  simp [ofJson?, toJson, Json.member?, Json.get?, Json.ofMembers, counter?_counterJson, count?_countJson,
    hname]

theorem ResourceUsage.ofJson?_toJson (u : ResourceUsage) : ofJson? u.toJson = some u := by
  have hpackages := Json.list?_map PackageUsage.ofJson?_toJson u.packages
  simp [ofJson?, toJson, Json.member?, Json.get?, Json.ofMembers, counter?_counterJson,
    SystemUsage.ofJson?_toJson, hpackages]

/-! ## Texts -/

theorem SystemUsage.writable (s : SystemUsage) : Writable s.toJson := by
  apply Writable.ofMembers
  simp

theorem PackageUsage.writable (p : PackageUsage) : Writable p.toJson := by
  apply Writable.ofMembers
  simp

theorem ResourceUsage.writable (u : ResourceUsage) : Writable u.toJson := by
  apply Writable.ofMembers
  simpa [SystemUsage.writable] using writable_list PackageUsage.writable u.packages

theorem ResourceUsage.parse?_compact (u : ResourceUsage) : parse? u.toJson.compact = some u := by
  rw [parse?, u.writable.parse?_compact, Option.bind_some, ofJson?_toJson]

end UsageWatch
