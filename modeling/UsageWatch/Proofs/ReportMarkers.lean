import UsageWatch.Proofs.DumpMessage
import UsageWatch.Proofs.ReportSections
/-!
# Titles and markers in a report

A profiler's report has each section title once and the marker once for each kind
without records, and besides these what names hold of both (`report_markers`).
-/

namespace UsageWatch

open Report

/-! ## Records of a profiler -/

theorem isPrinted_compute (time : Timestamp) (sample : Sample) (bounds : Bounds)
    (filter : PackageFilter) (previous : Option Record) :
    (Record.compute time sample bounds filter previous).packages.IsPrinted :=
  fun _ _ he => printedAs_of_mem time sample bounds filter previous he

def CollectionKind.records : (k : CollectionKind) → k.Cache → List Record
  | .userSwitch => SessionStore.records
  | .bootTime => Collection.records
  | .wakeUp => Collection.records
  | .periodic => Collection.records
  | .custom => Collection.records

def AllPrinted (records : List Record) : Prop := ∀ r ∈ records, r.packages.IsPrinted

theorem Collection.allPrinted_receive {c : Collection} (h : AllPrinted c.records) (bounds : Bounds)
    (input : CacheInput) : AllPrinted (c.receive bounds input).records := by
  cases input with
  | collected target time sample =>
    intro r hr
    rcases List.mem_append.mp hr with hr | hr
    · exact h r ((c.makeRoom_suffix time).mem hr)
    · rw [List.mem_singleton.mp hr]
      exact isPrinted_compute time sample bounds target.filter c.last?
  | swept now => exact fun r hr => h r ((c.sweep_suffix now).mem hr)
  | cleared => exact fun r hr => nomatch hr

theorem SessionStore.allPrinted_receive {s : SessionStore} (h : AllPrinted s.records)
    (bounds : Bounds) (input : CacheInput) : AllPrinted (s.receive bounds input).records := by
  cases input with
  | collected target time sample =>
    cases target with
    | userSwitch origin target =>
      intro r hr
      rcases List.mem_append.mp ((s.records_append_sublist origin target _ time).mem hr) with
        hr | hr
      · exact h r hr
      · rw [List.mem_singleton.mp hr]
        exact isPrinted_compute time sample bounds {} (s.previous? origin target)
    | _ => exact h
  | swept now => exact fun r hr => h r ((s.records_sweep_sublist now).mem hr)
  | cleared => exact fun r hr => nomatch hr

theorem SessionStore.populated_receive {s : SessionStore} (h : s.Populated) (bounds : Bounds)
    (input : CacheInput) : (s.receive bounds input).Populated := by
  cases input with
  | collected target time sample =>
    cases target with
    | userSwitch origin target => exact h.append origin target _ time
    | _ => exact h
  | swept now => exact h.sweep now
  | cleared => exact h.apply .clear

theorem ProfilerRun.allPrinted_after (config : Config) (metered : Bool)
    (operations : List Operation) (k : CollectionKind) :
    AllPrinted (k.records ((after config metered operations).profiler.caches.get k)) := by
  refine get_after_induction config metered operations k
    (P := fun cache => AllPrinted (k.records cache)) ?_ fun cache input h => ?_
  · cases k <;> exact fun r hr => nomatch hr
  · cases k with
    | userSwitch => exact SessionStore.allPrinted_receive h config.bounds input
    | _ => exact Collection.allPrinted_receive h config.bounds input

theorem ProfilerRun.populated_after (config : Config) (metered : Bool)
    (operations : List Operation) :
    (after config metered operations).profiler.caches.userSwitch.Populated :=
  get_after_induction config metered operations .userSwitch (P := SessionStore.Populated)
    ⟨(fun _ h => nomatch h), (fun _ h => nomatch h)⟩
    fun _ input h => SessionStore.populated_receive h config.bounds input

/-! ## Whole reports -/

namespace Caches

variable (c : Caches)

def names (k : CollectionKind) : List String :=
  (k.records (c.get k)).flatMap fun r => r.packages.names

def emptyKinds : Nat := CollectionKind.all.countP (c.recordCount · = 0)

theorem isEmpty_eq (c : Collection) : c.isEmpty = decide (c.size = 0) := by
  unfold Collection.isEmpty Collection.size
  cases c.records <;> rfl

theorem isEmpty_userSwitch {s : SessionStore} (h : s.Populated) :
    s.isEmpty = decide (s.recordCount = 0) := by
  unfold SessionStore.isEmpty SessionStore.recordCount
  cases hsessions : s.sessions with
  | nil => rfl
  | cons session rest =>
    have hne := h.nonempty session (by rw [hsessions]; exact List.mem_cons_self)
    rw [isEmpty_eq, decide_eq_false_iff_not] at hne
    rw [SessionStore.countRecords_cons]
    simp [hne]

theorem exists_report (p : Profiler) (hdated : p.caches.Dated)
    (hpopulated : p.caches.userSwitch.Populated)
    (hprinted : ∀ k : CollectionKind, AllPrinted (k.records (p.caches.get k))) :
    ∃ text, p.report? = some text ∧
      Reads text (CollectionKind.all.flatMap fun k => k.title.toList :: titlesIn (p.caches.names k))
        (p.caches.emptyKinds + markersIn (CollectionKind.all.flatMap p.caches.names)) := by
  obtain ⟨bootTime, hbootTime, hreadsBootTime⟩ :=
    exists_collectionSection .bootTime hdated.bootTime (hprinted .bootTime)
  obtain ⟨wakeUp, hwakeUp, hreadsWakeUp⟩ :=
    exists_collectionSection .wakeUp hdated.wakeUp (hprinted .wakeUp)
  obtain ⟨userSwitch, huserSwitch, hreadsUserSwitch⟩ :=
    exists_sessionsSection hpopulated hdated.userSwitch (hprinted .userSwitch)
  obtain ⟨periodic, hperiodic, hreadsPeriodic⟩ :=
    exists_collectionSection .periodic hdated.periodic (hprinted .periodic)
  obtain ⟨custom, hcustom, hreadsCustom⟩ :=
    exists_collectionSection .custom hdated.custom (hprinted .custom)
  refine ⟨bootTime ++ wakeUp ++ userSwitch ++ periodic ++ custom, ?_, ?_⟩
  · unfold Profiler.report?
    rw [hbootTime, hwakeUp, huserSwitch, hperiodic, hcustom]
    rfl
  · have htext : bootTime ++ wakeUp ++ userSwitch ++ periodic ++ custom =
        String.join [bootTime, wakeUp, userSwitch, periodic, custom] := by
      simp [String.append_assoc]
    rw [isEmpty_userSwitch hpopulated] at hreadsUserSwitch
    rw [isEmpty_eq] at hreadsBootTime hreadsWakeUp hreadsPeriodic hreadsCustom
    have hsections : List.Forall₂ (fun k text => ReadsSection text k
        (decide (p.caches.recordCount k = 0)) (p.caches.names k)) CollectionKind.all
          [bootTime, wakeUp, userSwitch, periodic, custom] :=
      .cons hreadsBootTime (.cons hreadsWakeUp (.cons hreadsUserSwitch
        (.cons hreadsPeriodic (.cons hreadsCustom .nil))))
    rw [htext]
    exact reads_sections hsections

end Caches

/-! ## Names without marks -/

/-- The name does not hold the marker, nor a title between two line breaks. -/
structure Unmarked (name : String) : Prop where
  marker : ¬ emptyMarker.toList <:+: name.toList
  title : ∀ l ∈ Text.innerFields '\n' name.toList, l ∉ titles

/-- A name on one line is unmarked. -/
theorem unmarked_of_newline_not_mem {name : String} (h : '\n' ∉ name.toList) : Unmarked name where
  marker hmarker := h (hmarker.mem (by rw [emptyMarker_eq]; simp))
  title := by
    rw [Text.innerFields_of_not_mem h]
    exact fun _ hl => nomatch hl

theorem titlesIn_eq_nil {names : List String} (h : ∀ name ∈ names, Unmarked name) :
    titlesIn names = [] := by
  refine List.flatMap_eq_nil_iff.mpr fun name hname => List.filter_eq_nil_iff.mpr fun l hl => ?_
  simpa using (h name hname).title l hl

theorem markersIn_eq_zero {names : List String} (h : ∀ name ∈ names, Unmarked name) :
    markersIn names = 0 := by
  rw [markersIn, List.sum_eq_zero_iff_forall_eq_nat]
  intro n hn
  obtain ⟨name, hname, rfl⟩ := List.mem_map.mp hn
  exact Text.occurrences_eq_zero_iff.mpr (h name hname).marker

theorem ProfilerRun.exists_dump (config : Config) (metered : Bool) (operations : List Operation)
    (hdated : (after config metered operations).profiler.caches.Dated) :
    let r := after config metered operations
    ∃ text, r.perform (.dump none) = (r, .ok (.report text)) ∧
      Reads text
        (CollectionKind.all.flatMap fun k => k.title.toList :: titlesIn (r.profiler.caches.names k))
        (r.profiler.caches.emptyKinds +
          markersIn (CollectionKind.all.flatMap r.profiler.caches.names)) := by
  intro r
  obtain ⟨text, htext, hreads⟩ := Caches.exists_report r.profiler hdated
    (populated_after config metered operations) (allPrinted_after config metered operations)
  refine ⟨text, ?_, hreads⟩
  simp only [perform, Profiler.dump, htext]
  rfl

/-- **Marks in a report.** A profiler whose records all have a date can be dumped.
The report has the marker once for each kind without records, and as often as the
names that are printed hold it. Its lines that are section titles are the titles in
their order, each with those between it and the next one that stand between two
line breaks of a name. So where no name has such marks, each title is a line once
and the markers are the kinds without records. -/
theorem report_markers (config : Config) (metered : Bool) (operations : List Operation) :
    let r := ProfilerRun.after config metered operations
    let c := r.profiler.caches
    c.Dated → ∃ text, r.perform (.dump none) = (r, .ok (.report text)) ∧
      markers text.toList = c.emptyKinds + markersIn (CollectionKind.all.flatMap c.names) ∧
      titleLines text.toList =
        CollectionKind.all.flatMap (fun k => k.title.toList :: titlesIn (c.names k)) ∧
      ((∀ k, ∀ name ∈ c.names k, Unmarked name) →
        markers text.toList = c.emptyKinds ∧ titleLines text.toList = titles) := by
  intro r c hdated
  obtain ⟨text, hdump, hreads⟩ := ProfilerRun.exists_dump config metered operations hdated
  refine ⟨text, hdump, hreads.markers_eq, hreads.titleLines_eq, fun hnames => ⟨?_, ?_⟩⟩
  · have hnone : ∀ name ∈ CollectionKind.all.flatMap c.names, Unmarked name := by
      intro name hname
      obtain ⟨k, -, hk⟩ := List.mem_flatMap.mp hname
      exact hnames k name hk
    rw [hreads.markers_eq, markersIn_eq_zero hnone]
    rfl
  · have hnone : ∀ k, titlesIn (c.names k) = [] := fun k => titlesIn_eq_nil (hnames k)
    rw [hreads.titleLines_eq]
    show (CollectionKind.all.flatMap fun k => k.title.toList :: titlesIn (c.names k)) = titles
    simp only [hnone]
    rfl

/-- A custom collection of one package alone. -/
theorem names_custom (name : String) (hname : name.isEmpty = false) :
    let package : PackageUse := { uid := 1010000, name, cpuTime := 5 }
    let r := ProfilerRun.after {} false
      [.collect ⟨.custom ⟨[name]⟩, .epoch, .normal⟩ (.ok { packages := [package] }) false]
    r.profiler.caches.Dated ∧ r.profiler.caches.names .custom = List.replicate 5 name ∧
      ∀ k ≠ .custom, r.profiler.caches.names k = [] := by
  intro package r
  have hcustom : r.profiler.caches.custom.records =
      [.compute .epoch { packages := [package] } ⟨10, 5⟩ ⟨[name]⟩ none] := by rfl
  refine ⟨?_, ?_, ?_⟩
  · constructor
    case custom =>
      intro record hrecord
      rw [hcustom, List.mem_singleton] at hrecord
      rw [hrecord]
      show Timestamp.epoch.InCalendar
      decide
    all_goals exact fun _ hmem => nomatch hmem
  · have hentry (category : Category) : (category.list (Record.compute .epoch
        { packages := [package] } ⟨10, 5⟩ ⟨[name]⟩ none).packages).flatMap (·.names) = [name] := by
      have hreported : package.reportedName = name := by
        simp [PackageUse.reportedName, package, hname]
      have hmember : package.reportedName ∈ (⟨[name]⟩ : PackageFilter) := by
        rw [hreported]
        exact List.mem_singleton_self name
      rw [Category.list_named (by rfl), List.filter_cons_of_pos (by simpa using hmember)]
      cases category <;> simp [Category.entry, RankedEntry.names, View.commands, topBy, hreported,
        PackageUse.cpuEntry, PackageUse.readEntry, PackageUse.writeEntry, PackageUse.blockedEntry,
        PackageUse.faultsEntry, package]
    show r.profiler.caches.custom.records.flatMap (fun r => r.packages.names) = _
    rw [hcustom, List.flatMap_singleton]
    simp only [PackageSummary.names, hentry]
    rfl
  · intro k hk
    cases k <;> first | rfl | exact absurd rfl hk

theorem report_markers_line_break :
    let name := "a\nNo collection recorded"
    let package : PackageUse := { uid := 1010000, name, cpuTime := 5 }
    let r := ProfilerRun.after {} false
      [.collect ⟨.custom ⟨[name]⟩, .epoch, .normal⟩ (.ok { packages := [package] }) false]
    let c := r.profiler.caches
    c.Dated ∧ (∀ k, ∀ name ∈ c.names k, Unmarked name) ∧ c.names .custom ≠ [] ∧
      ∃ text, r.perform (.dump none) = (r, .ok (.report text)) ∧
        markers text.toList = 4 ∧ titleLines text.toList = titles := by
  intro name package r c
  obtain ⟨hdated, hcustom, hother⟩ := names_custom name (by decide)
  have hunmarked : ∀ k, ∀ name ∈ c.names k, Unmarked name := by
    intro k other hmem
    by_cases hk : k = .custom
    · subst hk
      have hother : other = name := List.eq_of_mem_replicate (hcustom ▸ hmem)
      rw [hother]
      exact ⟨by decide, by decide⟩
    · have hnone : c.names k = [] := hother k hk
      rw [hnone] at hmem
      cases hmem
  obtain ⟨text, hdump, -, -, hcounts⟩ := report_markers {} false _ hdated
  obtain ⟨hmarkers, htitles⟩ := hcounts hunmarked
  refine ⟨hdated, hunmarked, ?_, text, hdump, hmarkers, htitles⟩
  have hnames : c.names .custom = List.replicate 5 name := hcustom
  rw [hnames]
  decide

/-- A package with the name of the marker stands for an empty section in each of the five lists. -/
theorem report_markers_named :
    let name := "No collection recorded\n"
    let package : PackageUse := { uid := 1010000, name, cpuTime := 5 }
    let r := ProfilerRun.after {} false
      [.collect ⟨.custom ⟨[name]⟩, .epoch, .normal⟩ (.ok { packages := [package] }) false]
    r.profiler.caches.Dated ∧ r.profiler.caches.emptyKinds = 4 ∧
      ∃ text, r.perform (.dump none) = (r, .ok (.report text)) ∧ markers text.toList = 9 := by
  intro name package r
  obtain ⟨hdated, hcustom, hother⟩ := names_custom name (by decide)
  obtain ⟨text, hdump, hreads⟩ := ProfilerRun.exists_dump {} false _ hdated
  have hnames : CollectionKind.all.flatMap r.profiler.caches.names = List.replicate 5 name := by
    have hnone (k : CollectionKind) (hk : k ≠ .custom) : r.profiler.caches.names k = [] :=
      hother k hk
    have hlast : r.profiler.caches.names .custom = List.replicate 5 name := hcustom
    simp [CollectionKind.all, hnone, hlast]
  have hfound : markersIn (List.replicate 5 name) = 5 := by decide
  refine ⟨hdated, by rfl, text, hdump, ?_⟩
  have hmarkers := hreads.markers_eq
  rw [hnames, hfound] at hmarkers
  exact hmarkers

end UsageWatch
