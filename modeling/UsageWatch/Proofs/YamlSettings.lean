import UsageWatch.Proofs.Numeral
import UsageWatch.Proofs.Settings
import UsageWatch.Proofs.TextLines
import UsageWatch.Proofs.YamlDocument
/-!
# Settings in YAML

A configuration is an outline: a line for each single setting, and the group of intervals
under the last key. It reads back whatever its numbers and texts are, also under the guide
(`Config.parseYaml?_renderYaml`, `Config.parseYaml?_guided`).
-/

namespace UsageWatch

open Yaml (Node ScalarStyle)
open Yaml.TokenReader (Entry IsKey IsValue)

def Setting.toNode : Setting → Node
  | .number n => .scalar none none .plain (Nat.toDigits 10 n)
  | .flag b => .scalar none none .plain (if b then "true" else "false").toList
  | .text s => .scalar none none (Yaml.styleOf s.toList) s.toList
  | .numbers entries =>
    .mapping none (entries.map fun (k, n) =>
      (.scalar none none .plain k.toList, .scalar none none .plain (Nat.toDigits 10 n)))

namespace Yaml

/-! ## Values of nodes -/

theorem digitsValue?_eq {ds : List Char} (hne : ds ≠ []) (hdigits : ∀ c ∈ ds, c.isDigit = true) :
    digitsValue? 10 ds = some (Nat.ofDigitChars 10 ds 0) := by
  have hstep (n : Nat) (c : Char) (hc : c.isDigit = true) :
      ((Text.hexDigit? c).filter (· < 10)).map (n * 10 + ·) = some (n * 10 + (c.toNat - 48)) := by
    have hbounds := Text.digit_bounds hc
    have hdigit : Text.hexDigit? c = some (c.toNat - 48) := if_pos (Text.isDigit_iff.mp hc)
    have hten : c.toNat - 48 < 10 := by omega
    simp [hdigit, Option.filter, hten]
  have hfold : ∀ (ds : List Char) (n : Nat), (∀ c ∈ ds, c.isDigit = true) →
      ds.foldlM (fun n c => ((Text.hexDigit? c).filter (· < 10)).map (n * 10 + ·)) n =
        some (Nat.ofDigitChars 10 ds n) := by
    intro ds
    induction ds with
    | nil => exact fun n _ => rfl
    | cons c ds ih =>
      intro n hds
      rw [List.forall_mem_cons] at hds
      rw [List.foldlM_cons, hstep n c hds.1, Nat.ofDigitChars_cons, Nat.mul_comm 10]
      exact ih _ hds.2
  rw [digitsValue?, if_neg (by simpa using hne)]
  exact hfold ds 0 hdigits

theorem basedValue?_eq {ds : List Char} (hdigits : ∀ c ∈ ds, c.isDigit = true) :
    basedValue? ds = digitsValue? 10 ds := by
  have hmark {mark : Char} {s : List Char} (hmark : mark.isDigit = false) : ds ≠ '0' :: mark :: s := by
    rintro rfl
    have hdigit := hdigits mark (by simp)
    rw [hmark] at hdigit
    cases hdigit
  unfold basedValue?
  split
  · exact absurd rfl (hmark (by decide))
  · exact absurd rfl (hmark (by decide))
  · exact absurd rfl (hmark (by decide))
  · rfl

theorem natural?_toDigits (n : Nat) : natural? (Nat.toDigits 10 n) = some n := by
  have hdigits : ∀ c ∈ Nat.toDigits 10 n, c.isDigit = true := fun c hc => Text.isDigit_of_mem_toDigits hc
  have hvalue := digitsValue?_eq Nat.toDigits_ne_nil hdigits
  rw [Nat.ofDigitChars_ten_toDigits] at hvalue
  obtain ⟨d, ds, heq, hd⟩ := Text.exists_toDigits_cons n
  have hplus : d ≠ '+' := Text.ne_of_kind hd (by decide)
  have hminus : d ≠ '-' := Text.ne_of_kind hd (by decide)
  have hpadded : isPaddedNumeral (Nat.toDigits 10 n) = false := by
    rw [heq]
    by_cases hzero : d = '0'
    · rw [hzero] at heq
      simp [isPaddedNumeral, isSign, hplus, hminus, Text.toDigits_zero_cons heq]
    · simp [isPaddedNumeral, isSign, hplus, hminus, hzero]
  have hdrop : dropPlus (Nat.toDigits 10 n) = Nat.toDigits 10 n := by
    rw [heq]
    unfold dropPlus
    split
    · next h => exact absurd (List.cons.inj h).1 hplus
    · rfl
  rw [natural?, hpadded, if_neg Bool.false_ne_true, hdrop, basedValue?_eq hdigits, hvalue]

theorem word?_toDigits {bits n : Nat} (h : n < Nat.pow 2 bits) :
    word? bits (.scalar none none .plain (Nat.toDigits 10 n)) = some n := by
  rw [word?, untyped?, Option.bind_some, natural?_toDigits]
  exact if_pos (decide_eq_true h)

theorem settingReader_readsBack (document : Node) : (settingReader document).ReadsBack Setting.toNode where
  counter n := by
    simp [settingReader, Setting.toNode, Node.resolve?, word?_toDigits n.toNat_lt]
  port n := by
    simp [settingReader, Setting.toNode, Node.resolve?, word?_toDigits n.toNat_lt]
  flag b := by
    have hword : boolean? (if b then "true" else "false").toList = some b := by cases b <;> decide
    exact hword
  text s := by simp [settingReader, Setting.toNode, Node.resolve?, text?]
  entries entries := by
    simp [settingReader, Setting.toNode, Node.resolve?, entries?, text?]

end Yaml

/-! ## Lines -/

def Setting.toEntry (key : String) : Setting → Entry
  | .number n => ⟨key.toList, Nat.toDigits 10 n ++ ['\n'], .plain, Nat.toDigits 10 n⟩
  | .flag b =>
    let word := (if b then "true" else "false").toList
    ⟨key.toList, word ++ ['\n'], .plain, word⟩
  | .text s => ⟨key.toList, Yaml.writeText Yaml.margin s.toList, Yaml.styleOf s.toList, s.toList⟩
  | .numbers _ => ⟨key.toList, [], .plain, []⟩

theorem Setting.IsSingle.toList_settingText {s : Setting} (h : s.IsSingle) (key : String) :
    (Yaml.settingText key s).toList = (s.toEntry key).text := by
  cases s with
  | number n => simp [Yaml.settingText, toEntry, Entry.text, Nat.toString_eq_repr, Nat.toList_repr]
  | flag b => simp [Yaml.settingText, toEntry, Entry.text]
  | text s => simp [Yaml.settingText, toEntry, Entry.text]
  | numbers entries => exact absurd rfl (h entries)

theorem Setting.IsSingle.node_toEntry {s : Setting} (h : s.IsSingle) (key : String) :
    (s.toEntry key).node = (.scalar none none .plain key.toList, s.toNode) := by
  cases s with
  | numbers entries => exact absurd rfl (h entries)
  | _ => rfl

namespace Yaml

theorem isKey_of_isName {w : List Char} (h : IsName w) : IsKey w := by
  refine ⟨h.ne_nil, Nat.le_trans h.length_le (by decide), fun c hc => ?_⟩
  rcases h.letters c hc with hbounds | rfl
  · have hdash : c ≠ '-' := by
      rintro rfl
      exact absurd hbounds (by decide)
    simp [isNameChar, hbounds, hdash]
  · decide

theorem isValue_toDigits (indent n : Nat) :
    IsValue indent (Nat.toDigits 10 n ++ ['\n']) .plain (Nat.toDigits 10 n) := by
  have hdigits : ∀ c ∈ Nat.toDigits 10 n, c.isDigit = true := fun c hc => Text.isDigit_of_mem_toDigits hc
  refine TokenReader.isValue_word Nat.toDigits_ne_nil (fun c hc => ?_) (fun hdash => ?_) indent
  · have hbounds := Text.isDigit_iff.mp (hdigits c hc)
    simp [isNameChar, hbounds]
  · exact absurd (hdigits '-' (List.mem_of_mem_head? hdash)) (by decide)

theorem isValue_flag (indent : Nat) (b : Bool) :
    IsValue indent ((if b then "true" else "false").toList ++ ['\n']) .plain
      (if b then "true" else "false").toList := by
  cases b <;> exact TokenReader.isValue_word (by decide) (List.all_eq_true.mp (by decide)) (by decide) indent

end Yaml

theorem Setting.IsSingle.reads_toEntry {s : Setting} (h : s.IsSingle) {key : String}
    (hkey : IsKey key.toList) : (s.toEntry key).Reads 0 := by
  cases s with
  | number n => exact ⟨hkey, Yaml.isValue_toDigits 0 n⟩
  | flag b => exact ⟨hkey, Yaml.isValue_flag 0 b⟩
  | text s => exact ⟨hkey, Yaml.TokenReader.isValue_writeText s.toList⟩
  | numbers entries => exact absurd rfl (h entries)

theorem Yaml.isAllowed_of_bounds {a : Char} (hlow : 0x20 ≤ a.toNat) (hhigh : a.toNat ≤ 0x7e) :
    isAllowed a = true := by
  simp only [isAllowed, Bool.or_eq_true, Bool.and_eq_true, decide_eq_true_eq]
  omega

theorem Yaml.isAllowed_of_isName {w : List Char} (h : IsName w) : ∀ a ∈ w, isAllowed a = true := by
  intro a ha
  rcases h.letters a ha with hbounds | rfl
  · have hlow : 0x61 ≤ a.toNat := UInt32.le_iff_toNat_le.mp hbounds.1
    have hhigh : a.toNat ≤ 0x7a := UInt32.le_iff_toNat_le.mp hbounds.2
    exact isAllowed_of_bounds (by omega) (by omega)
  · decide

theorem Setting.isAllowed_toEntry {key : String} (hkey : IsName key.toList) (s : Setting) :
    ∀ a ∈ (s.toEntry key).text, Yaml.isAllowed a = true := by
  have hmarks : ∀ a ∈ [':', ' '], Yaml.isAllowed a = true := List.all_eq_true.mp (by decide)
  have hwritten : ∀ a ∈ (s.toEntry key).written, Yaml.isAllowed a = true := by
    cases s with
    | number n =>
      rw [toEntry, List.forall_mem_append, List.forall_mem_singleton]
      refine ⟨fun a ha => ?_, by decide⟩
      have hbounds := Text.digit_bounds (Text.isDigit_of_mem_toDigits ha)
      exact Yaml.isAllowed_of_bounds (by omega) (by omega)
    | flag b =>
      have hword : ((if b then "true" else "false").toList ++ ['\n']).all Yaml.isAllowed = true := by
        cases b <;> decide
      exact List.all_eq_true.mp hword
    | text s => exact Yaml.isAllowed_writeText s.toList
    | numbers entries => exact List.forall_mem_nil _
  have hkey' : (s.toEntry key).key = key.toList := by cases s <;> rfl
  intro a ha
  rw [Entry.text, hkey', List.mem_append, List.mem_cons, List.mem_cons] at ha
  rcases ha with ha | rfl | rfl | ha
  · exact Yaml.isAllowed_of_isName hkey a ha
  · exact hmarks _ (by simp)
  · exact hmarks _ (by simp)
  · exact hwritten a ha

namespace Config

def outline (c : Config) : Yaml.Outline where
  entries := c.singleSettings.map fun (key, s) => s.toEntry key
  key := "collection_intervals".toList
  group := c.intervalSettings.map fun (key, s) => s.toEntry key

theorem toList_renderYaml (c : Config) : c.renderYaml.toList = c.outline.text := by
  have hsingle : ∀ settings : List (String × Setting), (∀ s ∈ settings, s.2.IsSingle) →
      (settings.flatMap fun (key, s) => (Yaml.settingText key s).toList) =
        (settings.map fun (key, s) => s.toEntry key).flatMap Entry.text := by
    intro settings h
    rw [List.flatMap_map]
    exact List.flatMap_congr fun s hs => (h s hs).toList_settingText s.1
  have hgroup : (String.join (c.intervals.settings.map fun (k, n) =>
      "  " ++ k ++ ": " ++ toString n ++ "\n")).toList =
        c.outline.group.flatMap fun e => List.replicate 2 ' ' ++ e.text := by
    rw [String.toList_join, List.flatMap_map, outline, intervalSettings, List.map_map, List.flatMap_map]
    refine List.flatMap_congr fun s _ => ?_
    simp [Setting.toEntry, Entry.text, Nat.toString_eq_repr, Nat.toList_repr]
  rw [renderYaml, settings_eq, List.map_append, String.join_append, String.toList_append,
    String.toList_join, List.flatMap_map, hsingle _ c.isSingle_settings.1, Yaml.Outline.text, ← hgroup]
  simp [Yaml.settingText, outline]

theorem reads_outline (c : Config) : c.outline.Reads where
  entries_ne_nil := by simp [outline, singleSettings, settings]
  entries := by
    rw [outline, List.forall_mem_map]
    exact fun s hs => (c.isSingle_settings.1 s hs).reads_toEntry
      (Yaml.isKey_of_isName (c.isName_singleSettings s hs))
  key := Yaml.isKey_of_isName isName_collectionIntervals
  group_ne_nil := by simp [outline, intervalSettings, Intervals.settings]
  group := by
    have hkeys := fun s hs => Yaml.isKey_of_isName (c.isName_intervalSettings s hs)
    rw [intervalSettings, List.forall_mem_map] at hkeys
    rw [outline, intervalSettings, List.map_map, List.forall_mem_map]
    exact fun s hs => ⟨hkeys s hs, Yaml.isValue_toDigits 2 s.2⟩

theorem node_outline (c : Config) : c.outline.node =
    .mapping none (c.settings.map fun (k, s) => (.scalar none none .plain k.toList, s.toNode)) := by
  have hsingle : (c.singleSettings.map fun (key, s) => s.toEntry key).map Entry.node =
      c.singleSettings.map fun (k, s) => (.scalar none none .plain k.toList, s.toNode) := by
    rw [List.map_map]
    exact List.map_congr_left fun s hs => (c.isSingle_settings.1 s hs).node_toEntry s.1
  have hgroup : (c.intervalSettings.map fun (key, s) => s.toEntry key).map Entry.node =
      c.intervals.settings.map fun (k, n) =>
        (.scalar none none .plain k.toList, .scalar none none .plain (Nat.toDigits 10 n)) := by
    rw [intervalSettings, List.map_map, List.map_map]
    rfl
  rw [settings_eq, List.map_append, ← hsingle, Yaml.Outline.node, outline, hgroup]
  rfl

theorem isAllowed_outline (c : Config) : ∀ a ∈ c.outline.text, Yaml.isAllowed a = true := by
  have hmarks : ∀ a ∈ [':', ' ', '\n'], Yaml.isAllowed a = true := List.all_eq_true.mp (by decide)
  have hsingle : ∀ e ∈ c.outline.entries, ∀ a ∈ e.text, Yaml.isAllowed a = true := by
    rw [outline, List.forall_mem_map]
    exact fun s hs => Setting.isAllowed_toEntry (c.isName_singleSettings s hs) s.2
  have hgroup : ∀ e ∈ c.outline.group, ∀ a ∈ e.text, Yaml.isAllowed a = true := by
    rw [outline, List.forall_mem_map]
    exact fun s hs => Setting.isAllowed_toEntry (c.isName_intervalSettings s hs) s.2
  intro a ha
  simp only [Yaml.Outline.text, List.mem_append, List.mem_cons, List.mem_flatMap] at ha
  rcases ha with ⟨e, he, ha⟩ | ha | rfl | rfl | ⟨e, he, ha | ha⟩
  · exact hsingle e he a ha
  · exact Yaml.isAllowed_of_isName isName_collectionIntervals a ha
  · exact hmarks _ (by simp)
  · exact hmarks _ (by simp)
  · rw [List.eq_of_mem_replicate ha]
    exact hmarks _ (by simp)
  · exact hgroup e he a ha

theorem entries_outline (c : Config) (document : Node) : (Yaml.settingReader document).entries c.outline.node =
    some (.named (c.settings.map fun (k, s) => (some k, s.toNode))) := by
  rw [node_outline]
  simp [Yaml.settingReader, Yaml.Node.resolve?, Yaml.entries?, Yaml.text?]

theorem parseYaml?_of_parse? {s : String} {root : Node} (h : Yaml.parse? s = some (some root)) :
    parseYaml? s = decode? (Yaml.settingReader root) root := by
  rw [parseYaml?, h]
  rfl

/-- A configuration is read from its text, also below comments and empty lines. -/
theorem parseYaml?_eq (c : Config) (lines : List (List Char))
    (hlines : ∀ line ∈ lines, ∀ a ∈ line, Yaml.isAllowed a = true ∧ Yaml.isBreak a = false)
    (hcomments : ∀ line ∈ lines, ∀ a, line.head? = some a → a = '#') {s : String}
    (hs : s.toList = lines.flatMap (· ++ ['\n']) ++ c.renderYaml.toList) : parseYaml? s = some c := by
  have hallowed : ∀ a ∈ lines.flatMap (· ++ ['\n']) ++ c.outline.text, Yaml.isAllowed a = true := by
    intro a ha
    rcases List.mem_append.mp ha with ha | ha
    · obtain ⟨line, hline, ha⟩ := List.mem_flatMap.mp ha
      rcases List.mem_append.mp ha with ha | ha
      · exact (hlines line hline a ha).1
      · obtain rfl := List.mem_singleton.mp ha
        decide
    · exact c.isAllowed_outline a ha
  rw [toList_renderYaml] at hs
  rw [parseYaml?_of_parse? (c.reads_outline.parse? (fun line hline a ha => (hlines line hline a ha).2) hcomments
    hallowed hs)]
  exact decode?_eq (Yaml.settingReader_readsBack c.outline.node) (c.entries_outline _)

theorem parseYaml?_renderYaml (c : Config) : parseYaml? c.renderYaml = some c :=
  c.parseYaml?_eq [] (List.forall_mem_nil _) (List.forall_mem_nil _) (by simp)

set_option maxRecDepth 20000 in
/-- The guide is comments and empty lines. -/
theorem exists_guide : ∃ text, guide = String.ofList text ∧ text.all Yaml.isAllowed = true ∧
    (Text.fields '\n' text).all (fun line => line.all (fun a => !Yaml.isBreak a) &&
      line.head?.all (· = '#')) = true :=
  ⟨_, rfl, by decide +kernel, by decide +kernel⟩

theorem parseYaml?_guided (c : Config) : parseYaml? (guide ++ "\n" ++ c.renderYaml) = some c := by
  obtain ⟨text, hguide, hallowed, hlines⟩ := exists_guide
  rw [List.all_eq_true] at hallowed
  simp only [List.all_eq_true, Bool.and_eq_true, Bool.not_eq_true', Option.all_eq_true,
    decide_eq_true_eq] at hlines
  have htext := Text.flatMap_fields '\n' text
  refine c.parseYaml?_eq (Text.fields '\n' text) (fun line hline a ha => ⟨?_, (hlines line hline).1 a ha⟩)
    (fun line hline => (hlines line hline).2) (by simp [hguide, htext])
  have hmem : a ∈ text ++ ['\n'] := by
    rw [← htext]
    exact List.mem_flatMap.mpr ⟨line, hline, List.mem_append_left _ ha⟩
  rcases List.mem_append.mp hmem with hmem | hmem
  · exact hallowed a hmem
  · rw [List.mem_singleton.mp hmem]
    decide

end Config

end UsageWatch
