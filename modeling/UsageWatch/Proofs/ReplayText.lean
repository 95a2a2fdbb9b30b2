import UsageWatch.Program
import UsageWatch.Proofs.Omission
/-!
# Replay files that read back

What is written of replay data reads back as it was. Members that have a default may be
left out, each wherever it stands: the data that is read has the default there, which is
zero or empty, and is the same everywhere else (`ReplayData.without`).
-/

namespace UsageWatch

open Json (Omission Writable)

def ReplayData.optionalMembers : List String :=
  ["uid_deltas", "system_delta", "package_name", "io", "proc_stats", "processes", "guest",
   "guest_nice"]

/-! ## What is read if members are left out -/

def CpuTimes.without (omission : Omission) (t : CpuTimes) : CpuTimes :=
  { t with
    guest := if omission [.member "guest"] then 0 else t.guest
    guestNice := if omission [.member "guest_nice"] then 0 else t.guestNice }

def SystemUse.without (omission : Omission) (s : SystemUse) : SystemUse :=
  { s with cpu := s.cpu.without (omission.inside (.member "cpu")) }

def ProcessGroup.without (omission : Omission) (g : ProcessGroup) : ProcessGroup :=
  { g with processes := if omission [.member "processes"] then [] else g.processes }

def PackageUse.without (omission : Omission) (p : PackageUse) : PackageUse :=
  { p with
    name := if omission [.member "package_name"] then "" else p.name
    storage := if omission [.member "io"] then {} else p.storage
    group :=
      if omission [.member "proc_stats"] then {}
      else p.group.without (omission.inside (.member "proc_stats")) }

def Sample.without (omission : Omission) (s : Sample) : Sample where
  packages :=
    if omission [.member "uid_deltas"] then []
    else s.packages.mapIdx fun i p =>
      p.without ((omission.inside (.member "uid_deltas")).inside (.item i))
  system :=
    if omission [.member "system_delta"] then {}
    else s.system.without (omission.inside (.member "system_delta"))

def ReplayData.without (omission : Omission) (d : ReplayData) : ReplayData :=
  { d with
    samples := d.samples.mapIdx fun i s =>
      s.without ((omission.inside (.member "samples")).inside (.item i)) }

theorem PackageUse.without_nothing (p : PackageUse) : p.without .nothing = p := rfl

theorem Sample.without_nothing (s : Sample) : s.without .nothing = s := by
  have hpackages : (s.packages.mapIdx fun i p =>
      p.without ((Omission.inside .nothing (.member "uid_deltas")).inside (.item i))) = s.packages :=
    Json.mapIdx_eq_self fun p _ _ => p.without_nothing
  rw [without, hpackages]
  rfl

theorem ReplayData.without_nothing (d : ReplayData) : d.without .nothing = d := by
  have hsamples : (d.samples.mapIdx fun i s =>
      s.without ((Omission.inside .nothing (.member "samples")).inside (.item i))) = d.samples :=
    Json.mapIdx_eq_self fun s _ _ => s.without_nothing
  rw [without, hsamples]

/-! ## Reading -/

section

open Json (required memberWithout list?_without)
open ReplayData (optionalMembers)

variable (omission : Omission)

@[simp] theorem without_counterJson (n : Counter) :
    (counterJson n).without optionalMembers omission = counterJson n :=
  Json.without_ofNat _ _ _

@[simp] theorem without_countJson (n : Count) :
    (countJson n).without optionalMembers omission = countJson n :=
  Json.without_ofNat _ _ _

/-- A member that has a default is what is left of it, or the default. -/
theorem optional_memberWithout {α : Type} {decode : Json → Option α} (name : String) (default : α)
    {a : α} {j : Json} (hname : name ∈ optionalMembers)
    (h : decode (j.without optionalMembers (omission.inside (.member name))) = some a) :
    Json.optional decode default (memberWithout optionalMembers omission name j) =
      some (if omission [.member name] then default else a) := by
  by_cases hdrops : omission [.member name] = true
  · simp [memberWithout, Omission.drops, hname, hdrops, Json.optional]
  · simp [memberWithout, Omission.drops, hdrops, Json.optional, h]

theorem required_memberWithout {α : Type} {decode : Json → Option α} (name : String) {a : α} {j : Json}
    (hname : name ∉ optionalMembers)
    (h : decode (j.without optionalMembers (omission.inside (.member name))) = some a) :
    required decode (memberWithout optionalMembers omission name j) = some a := by
  simp [memberWithout, Omission.drops, hname, required, h]

theorem counter_memberWithout {name : String} (hname : name ∉ optionalMembers) (n : Counter) :
    required Json.counter? (memberWithout optionalMembers omission name (counterJson n)) = some n := by
  apply required_memberWithout omission name hname
  rw [without_counterJson, counter?_counterJson]

theorem count_memberWithout {name : String} (hname : name ∉ optionalMembers) (n : Count) :
    required Json.count? (memberWithout optionalMembers omission name (countJson n)) = some n := by
  apply required_memberWithout omission name hname
  rw [without_countJson, count?_countJson]

theorem Split.ofJson?_without (s : Split) :
    Split.ofJson? (s.toJson.without optionalMembers omission) = some s := by
  simp [toJson, ofJson?, Json.without, Json.withoutItems, Json.items?, counter?_counterJson]

theorem StorageUse.ofJson?_without (s : StorageUse) :
    StorageUse.ofJson? (s.toJson.without optionalMembers omission) = some s := by
  have hrows : ∀ omission, rows? (s.rowsJson.without optionalMembers omission) = some s := by
    intro omission
    simp [rowsJson, rows?, Json.without, Json.withoutItems, Json.items?, Split.ofJson?_without]
  rw [ofJson?, toJson, Json.fields?_without _ _ (by decide) (by simp)]
  simp only [List.map_cons, List.map_nil, Option.bind_eq_bind, Option.bind_some]
  exact required_memberWithout omission "metrics" (by decide) (hrows _)

theorem text_without (s : String) :
    Json.text? ((Json.ofString s).without optionalMembers omission) = some s := by
  rw [Json.without_ofString]
  rfl

theorem ProcessUse.ofJson?_without (p : ProcessUse) :
    ProcessUse.ofJson? (p.toJson.without optionalMembers omission) = some p := by
  have hcommand := required_memberWithout omission "comm" (by decide)
    (text_without _ p.command)
  rw [ofJson?, toJson, Json.fields?_without _ _ (by decide) (by simp [layout])]
  simp (disch := decide) only [List.map_cons, List.map_nil, Option.bind_eq_bind, Option.bind_some,
    counter_memberWithout, count_memberWithout, hcommand]

theorem ProcessGroup.ofJson?_without (g : ProcessGroup) :
    ProcessGroup.ofJson? (g.toJson.without optionalMembers omission) = some (g.without omission) := by
  have hlist : (g.processes.mapIdx fun _ p => p) = g.processes :=
    Json.mapIdx_eq_self fun _ _ _ => rfl
  have hprocesses := optional_memberWithout omission "processes" []
    (by decide) (list?_without optionalMembers _ ProcessUse.ofJson?_without g.processes)
  rw [hlist] at hprocesses
  rw [ofJson?, toJson, Json.fields?_without _ _ (by decide) (by simp [layout])]
  simp (disch := decide) only [List.map_cons, List.map_nil, Option.bind_eq_bind, Option.bind_some,
    counter_memberWithout, count_memberWithout, hprocesses, without]

theorem CpuTimes.ofJson?_without (t : CpuTimes) :
    CpuTimes.ofJson? (t.toJson.without optionalMembers omission) = some (t.without omission) := by
  have hcounter : ∀ omission n, Json.counter? ((counterJson n).without optionalMembers omission) =
      some n := fun omission n => by rw [without_counterJson, counter?_counterJson]
  have hguest := optional_memberWithout omission "guest" 0 (by decide)
    (hcounter _ t.guest)
  have hguestNice := optional_memberWithout omission "guest_nice" 0 (by decide)
    (hcounter _ t.guestNice)
  rw [ofJson?, toJson, Json.fields?_without _ _ (by decide) (by simp [layout])]
  simp only [List.map_cons, List.map_nil]
  rw [Option.bind_eq_bind, Option.bind_some]
  simp (disch := decide) only [Option.bind_eq_bind, Option.bind_some, counter_memberWithout, hguest,
    hguestNice, without]

theorem SystemUse.ofJson?_without (s : SystemUse) :
    SystemUse.ofJson? (s.toJson.without optionalMembers omission) = some (s.without omission) := by
  have hcpu := required_memberWithout omission "cpu" (by decide)
    (CpuTimes.ofJson?_without _ s.cpu)
  rw [ofJson?, toJson, Json.fields?_without _ _ (by decide) (by simp [layout])]
  simp (disch := decide) only [List.map_cons, List.map_nil, Option.bind_eq_bind, Option.bind_some,
    counter_memberWithout, count_memberWithout, hcpu, without]

theorem PackageUse.ofJson?_without (p : PackageUse) :
    PackageUse.ofJson? (p.toJson.without optionalMembers omission) = some (p.without omission) := by
  have hname := optional_memberWithout omission "package_name" "" (by decide)
    (text_without _ p.name)
  have hstorage := optional_memberWithout omission "io" {} (by decide)
    (StorageUse.ofJson?_without _ p.storage)
  have hgroup := optional_memberWithout omission "proc_stats" {} (by decide)
    (ProcessGroup.ofJson?_without _ p.group)
  rw [ofJson?, toJson, Json.fields?_without _ _ (by decide) (by simp [layout])]
  simp (disch := decide) only [List.map_cons, List.map_nil, Option.bind_eq_bind, Option.bind_some,
    counter_memberWithout, count_memberWithout, hname, hstorage, hgroup, without]

theorem Sample.ofJson?_without (s : Sample) :
    Sample.ofJson? (s.toJson.without optionalMembers omission) = some (s.without omission) := by
  have hpackages := optional_memberWithout omission "uid_deltas" [] (by decide)
    (list?_without optionalMembers _ PackageUse.ofJson?_without s.packages)
  have hsystem := optional_memberWithout omission "system_delta" {} (by decide)
    (SystemUse.ofJson?_without _ s.system)
  rw [ofJson?, toJson, Json.fields?_without _ _ (by decide) (by simp)]
  simp only [List.map_cons, List.map_nil, Option.bind_eq_bind, Option.bind_some, hpackages, hsystem,
    without]

theorem ReplayData.ofJson?_without (d : ReplayData) :
    ReplayData.ofJson? (d.toJson.without optionalMembers omission) = some (d.without omission) := by
  have hversion := required_memberWithout omission "version" (by decide)
    (text_without _ d.version)
  have hgeneratedAt := required_memberWithout omission "generated_at" (by decide)
    (text_without _ d.generatedAt)
  have hsamples := required_memberWithout omission "samples" (by decide)
    (list?_without optionalMembers _ Sample.ofJson?_without d.samples)
  rw [ofJson?, toJson, Json.fields?_without _ _ (by decide) (by simp)]
  simp only [List.map_cons, List.map_nil, Option.bind_eq_bind, Option.bind_some, hversion,
    hgeneratedAt, hsamples, without]

end

/-! ## Writing -/

theorem writable_list {α : Type} {toJson : α → Json} (h : ∀ a, Writable (toJson a)) (as : List α) :
    Writable (.array (as.map toJson)) := by
  refine .array fun j hj => ?_
  obtain ⟨a, -, rfl⟩ := List.mem_map.mp hj
  exact h a

@[simp] theorem writable_ofString (s : String) : Writable (.ofString s) := .text s
@[simp] theorem writable_counterJson (n : Counter) : Writable (counterJson n) := .number _
@[simp] theorem writable_countJson (n : Count) : Writable (countJson n) := .number _

theorem Split.writable (s : Split) : Writable s.toJson := by
  refine .array ?_
  simp

theorem StorageUse.writable (s : StorageUse) : Writable s.toJson := by
  have hrows : Writable s.rowsJson := .array (by simp [Split.writable])
  apply Writable.ofMembers
  simpa using hrows

theorem ProcessUse.writable (p : ProcessUse) : Writable p.toJson := by
  apply Writable.ofMembers
  simp

theorem ProcessGroup.writable (g : ProcessGroup) : Writable g.toJson := by
  apply Writable.ofMembers
  simpa using writable_list ProcessUse.writable g.processes

theorem PackageUse.writable (p : PackageUse) : Writable p.toJson := by
  apply Writable.ofMembers
  simp [StorageUse.writable, ProcessGroup.writable]

theorem CpuTimes.writable (t : CpuTimes) : Writable t.toJson := by
  apply Writable.ofMembers
  simp

theorem SystemUse.writable (s : SystemUse) : Writable s.toJson := by
  apply Writable.ofMembers
  simp [CpuTimes.writable]

theorem Sample.writable (s : Sample) : Writable s.toJson := by
  apply Writable.ofMembers
  simpa [SystemUse.writable] using writable_list PackageUse.writable s.packages

theorem ReplayData.writable (d : ReplayData) : Writable d.toJson := by
  apply Writable.ofMembers
  simpa using writable_list Sample.writable d.samples

/-! ## Files -/

namespace ReplayData

theorem load_eq_ok {files : Files} {path s : String} {d : ReplayData} (hfile : files path = .file s.toUTF8)
    (hparse : parse? s = some d) : load files path = .ok d := by
  have hpresent : (FileEntry.file s.toUTF8).isPresent = true := rfl
  rw [load, hfile, FileEntry.text?_file]
  simp only [hpresent, hparse, Bool.not_true, Bool.false_eq_true, if_false]

theorem parse?_without (d : ReplayData) (omission : Omission) :
    parse? (d.toJson.without optionalMembers omission).pretty = some (d.without omission) := by
  have hpretty := (d.writable.without optionalMembers omission).parse?_pretty
  rw [parse?, hpretty, Option.bind_some, ofJson?_without]

theorem parse?_render (d : ReplayData) : parse? d.render = some d := by
  have hnothing := d.parse?_without .nothing
  rwa [d.writable.without_nothing, d.without_nothing] at hnothing

theorem load_render {files : Files} {path : String} {d : ReplayData}
    (hfile : files path = .file d.render.toUTF8) : load files path = .ok d :=
  load_eq_ok hfile d.parse?_render

end ReplayData

/-- **Replay files read back.** A file that holds what was written of some data loads as
that data, and generating a file writes just that. Members that have a default may be left
out of it, whichever and wherever: each loads as its default and all the rest as it was. -/
theorem replay_files_read_back (files : Files) (path : String) (d : ReplayData) :
    (files path = .file d.render.toUTF8 → ReplayData.load files path = .ok d) ∧
    (∀ (s : Surroundings) (o : GenerateOptions),
      s.synthetic o.samples.toNat o.packages.toNat o.processes.toNat = d →
      (Program.generate s o).file.map (·.content) = some d.render.toUTF8) ∧
    ∀ omission : Omission,
      files path = .file (d.toJson.without ReplayData.optionalMembers omission).pretty.toUTF8 →
      ReplayData.load files path = .ok (d.without omission) := by
  refine ⟨ReplayData.load_render, ?_, ?_⟩
  · rintro s o rfl
    rfl
  · intro omission hfile
    exact ReplayData.load_eq_ok hfile (d.parse?_without omission)

/-- The first package of the first sample is left without its name. -/
theorem replay_files_read_back_unnamed :
    let d : ReplayData := ⟨"1.0", "a \"day\"\n", [⟨[⟨1000, "mount", 18446744073709551615, {}, {}⟩], {}⟩]⟩
    let omission : Omission := fun steps =>
      steps = [.member "samples", .item 0, .member "uid_deltas", .item 0, .member "package_name"]
    ReplayData.load (fun _ => .file d.render.toUTF8) "replay.json" = .ok d ∧
      ReplayData.load (fun _ => .file
        (d.toJson.without ReplayData.optionalMembers omission).pretty.toUTF8) "replay.json" =
          .ok { d with samples := [⟨[⟨1000, "", 18446744073709551615, {}, {}⟩], {}⟩] } := by
  intro d omission
  refine ⟨(replay_files_read_back _ _ d).1 rfl, ?_⟩
  exact (replay_files_read_back _ _ d).2.2 omission rfl

end UsageWatch
