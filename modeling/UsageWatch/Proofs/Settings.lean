import UsageWatch.Config.Settings
import UsageWatch.Proofs.Layout
/-!
# Settings that are read as they are

A file format is right for configurations if it has a value for each setting that is read
as this setting (`SettingReader.ReadsBack`). Then the settings of a configuration, in their
order, are read as that configuration. All settings are single ones, but for the group of
intervals at the end (`Config.settings_eq`).
-/

namespace UsageWatch

structure SettingReader.ReadsBack {α : Type} (r : SettingReader α) (write : Setting → α) : Prop where
  counter : ∀ n : UInt64, r.counter (write (.number n.toNat)) = some n
  port : ∀ n : UInt16, r.port (write (.number n.toNat)) = some n
  flag : ∀ b, r.flag (write (.flag b)) = some b
  text : ∀ s, r.text (write (.text s)) = some s
  entries : ∀ entries, r.entries (write (.numbers entries)) =
    some (.named (entries.map fun (k, n) => (some k, write (.number n))))

variable {α β : Type}

theorem Layout.assign?_map (layout : Layout) (settings : List (String × β)) (write : β → α)
    (hnodup : layout.flatten.Nodup)
    (hnames : List.Forall₂ (fun setting names => setting.1 ∈ names) settings layout) :
    layout.assign? (.named (settings.map fun (k, b) => (some k, write b))) =
      some (settings.map fun (_, b) => some (write b)) := by
  have hpresent : present (settings.map fun (k, b) => (k, some (write b))) =
      settings.map fun (k, b) => (some k, write b) := by
    simp [present, List.filterMap_map]
  have hfields : List.Forall₂ (fun field names => field.1 ∈ names)
      (settings.map fun (k, b) => (k, some (write b))) layout := by
    rwa [List.forall₂_map_left_iff]
  have hassign := assign?_present hnodup hfields
  rw [hpresent, List.map_map] at hassign
  exact hassign

variable {r : SettingReader α} {write : Setting → α}

theorem Intervals.decode?_eq (h : r.ReadsBack write) (i : Intervals) :
    decode? r (write (.numbers i.settings)) = some i := by
  have hassign := Layout.assign?_map layout i.settings (fun n => write (.number n)) (by decide)
    (by simp [layout, settings])
  unfold decode?
  rw [h.entries, Option.bind_eq_bind, Option.bind_some, hassign]
  simp only [settings, List.map_cons, List.map_nil, setting, h.counter, Option.bind_eq_bind,
    Option.bind_some]

theorem Config.decode?_eq (h : r.ReadsBack write) {v : α} {c : Config}
    (hentries : r.entries v = some (.named (c.settings.map fun (k, s) => (some k, write s)))) :
    decode? r v = some c := by
  have hassign := Layout.assign?_map layout c.settings write (by decide)
    (by simp [layout, settings])
  unfold decode?
  rw [hentries, Option.bind_eq_bind, Option.bind_some, hassign]
  simp only [settings, List.map_cons, List.map_nil]
  rw [Option.bind_eq_bind, Option.bind_some]
  simp only [setting, h.counter, h.port, h.flag, h.text, Intervals.decode?_eq h, Option.bind_eq_bind,
    Option.bind_some]

structure IsName (s : List Char) : Prop where
  ne_nil : s ≠ []
  length_le : s.length ≤ 100
  letters : ∀ c ∈ s, ('a' ≤ c ∧ c ≤ 'z') ∨ c = '_'

instance (s : List Char) : Decidable (IsName s) :=
  decidable_of_iff
    (s ≠ [] ∧ s.length ≤ 100 ∧ s.all (fun c => ('a' ≤ c && c ≤ 'z') || c = '_') = true) <| by
    simp only [List.all_eq_true, Bool.or_eq_true, Bool.and_eq_true, decide_eq_true_eq]
    exact ⟨fun h => ⟨h.1, h.2.1, h.2.2⟩, fun h => ⟨h.1, h.2, h.3⟩⟩

def Setting.IsSingle (setting : Setting) : Prop := ∀ entries, setting ≠ .numbers entries

namespace Config

/-- All settings but the last, which is a group. -/
def singleSettings (c : Config) : List (String × Setting) := c.settings.take 10

def intervalSettings (c : Config) : List (String × Setting) :=
  c.intervals.settings.map fun (key, n) => (key, .number n)

theorem settings_eq (c : Config) :
    c.settings = c.singleSettings ++ [("collection_intervals", .numbers c.intervals.settings)] := rfl

theorem isSingle_settings (c : Config) : (∀ s ∈ c.singleSettings, s.2.IsSingle) ∧
    ∀ s ∈ c.intervalSettings, s.2.IsSingle := by
  simp [singleSettings, intervalSettings, settings, Intervals.settings, Setting.IsSingle]

theorem isName_settings (c : Config) : ∀ s ∈ c.settings, IsName s.1.toList := by
  have hkeys : ∀ key ∈ c.settings.map Prod.fst, IsName key.toList := by
    -- the names do not depend on the values
    change ∀ key ∈ ({} : Config).settings.map Prod.fst, IsName key.toList
    decide +kernel
  exact fun s hs => hkeys s.1 (List.mem_map_of_mem hs)

theorem isName_singleSettings (c : Config) : ∀ s ∈ c.singleSettings, IsName s.1.toList := fun s hs =>
  c.isName_settings s (List.mem_of_mem_take hs)

theorem isName_collectionIntervals : IsName "collection_intervals".toList :=
  ({} : Config).isName_settings _ (by rw [settings_eq]; exact List.mem_append_right _ List.mem_cons_self)

theorem isName_intervalSettings (c : Config) : ∀ s ∈ c.intervalSettings, IsName s.1.toList := by
  have hkeys : ∀ key ∈ c.intervalSettings.map Prod.fst, IsName key.toList := by
    change ∀ key ∈ ({} : Config).intervalSettings.map Prod.fst, IsName key.toList
    decide +kernel
  exact fun s hs => hkeys s.1 (List.mem_map_of_mem hs)

end Config

end UsageWatch
