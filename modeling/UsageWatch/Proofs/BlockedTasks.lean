import UsageWatch.Proofs.Projection
import UsageWatch.Proofs.Share
/-!
# Blocked tasks and task counts

The list by blocked tasks has an entry for each package, but task counts are kept
by identifier and the last package of an identifier writes over the others. So an
entry stays within its count exactly if its package is within the last one's, as
it is where packages do not share identifiers (`blocked_within_tasks_iff`).
-/

namespace UsageWatch

/-! ## The count that stays -/

/-- The package whose task count stays for an identifier. -/
def lastOf (uid : Count) (packages : List PackageUse) : Option PackageUse :=
  (packages.filter (·.uid = uid)).getLast?

theorem lastOf_concat (uid : Count) (packages : List PackageUse) (p : PackageUse) :
    lastOf uid (packages ++ [p]) = if p.uid = uid then some p else lastOf uid packages := by
  unfold lastOf
  rw [List.filter_append]
  by_cases h : p.uid = uid <;> simp [h]

theorem exists_lastOf {p : PackageUse} {packages : List PackageUse} (h : p ∈ packages) :
    ∃ last, lastOf p.uid packages = some last := by
  have hmem : p ∈ packages.filter (·.uid = p.uid) := List.mem_filter.mpr ⟨h, by simp⟩
  exact ⟨_, List.getLast?_eq_some_getLast (List.ne_nil_of_mem hmem)⟩

theorem mem_of_lastOf {uid : Count} {packages : List PackageUse} {last : PackageUse}
    (h : lastOf uid packages = some last) : last ∈ packages ∧ last.uid = uid := by
  have hmem := List.mem_filter.mp (List.mem_of_getLast? h)
  exact ⟨hmem.1, by simpa using hmem.2⟩

theorem lastOf_of_nodup {p : PackageUse} {packages : List PackageUse} (h : p ∈ packages)
    (hnodup : (packages.map (·.uid)).Nodup) : lastOf p.uid packages = some p := by
  obtain ⟨last, hlast⟩ := exists_lastOf h
  obtain ⟨hmem, huid⟩ := mem_of_lastOf hlast
  rw [hlast, List.inj_on_of_nodup_map hnodup hmem h huid]

theorem lookup_filter_ne {uid other : Count} (h : other ≠ uid) :
    ∀ counts : List (Count × Count), (counts.filter (·.1 ≠ uid)).lookup other = counts.lookup other
  | [] => rfl
  | (first, tasks) :: rest => by
    by_cases hfirst : first = uid
    · have hne : (other == first) = false := by simp [hfirst, h]
      rw [List.filter_cons_of_neg (by simp [hfirst]), lookup_filter_ne h rest,
        List.lookup_cons, hne]
    · rw [List.filter_cons_of_pos (by simp [hfirst]), List.lookup_cons, List.lookup_cons,
        lookup_filter_ne h rest]

theorem TaskCounts.get?_put (m : TaskCounts) (uid tasks other : Count) :
    (m.put uid tasks).get? other = if uid = other then some tasks else m.get? other := by
  unfold get? put
  by_cases h : uid = other
  · simp [h]
  · have hne : (other == uid) = false := by simp [Ne.symm h]
    rw [if_neg h, List.lookup_cons, hne, lookup_filter_ne (Ne.symm h)]

theorem get?_taskCounts (time : Timestamp) (sample : Sample) (bounds : Bounds)
    (filter : PackageFilter) (previous : Option Record) (uid : Count) :
    (Record.compute time sample bounds filter previous).packages.taskCounts.get? uid =
      (lastOf uid sample.packages).map (·.group.tasks) := by
  show (sample.packages.foldl (fun (m : TaskCounts) p => m.put p.uid p.group.tasks) {}).get? uid = _
  induction sample.packages using List.reverseRecOn with
  | nil => rfl
  | append_singleton packages p ih =>
    rw [List.foldl_concat, TaskCounts.get?_put, lastOf_concat, ih]
    split <;> rfl

/-! ## Entries within their counts -/

def PackageSummary.WithinTasks (s : PackageSummary) (e : RankedEntry) : Prop :=
  ∃ tasks, s.taskCounts.get? e.uid = some tasks ∧ e.value.toNat ≤ tasks.toNat

/-- What an entry that is within its count comes to: a share of a hundred percent
at most, and a message with no more blocked tasks than tasks. -/
structure PackageSummary.ReportsWithin (s : PackageSummary) (e : RankedEntry) : Prop where
  text : ∃ hundredths ≤ 10000, ∃ processes : String,
    Report.blockedLines s.taskCounts e =
      Report.line (Report.commas (Report.owner e ++
        [Report.number e.value, Decimal.placesText 2 hundredths ++ "%"])) ++ processes
  message : ∃ m, Wire.PackageTaskStats.ofEntry? s.taskCounts e = some m ∧
    m.blockedTasks ≤ m.totalTasks

theorem PackageSummary.WithinTasks.reportsWithin {s : PackageSummary} {e : RankedEntry}
    {value : Counter} {processes : List ProcessValue} (h : s.WithinTasks e)
    (hview : e.view = .single value processes) : s.ReportsWithin e := by
  obtain ⟨tasks, htasks, hle⟩ := h
  have hvalue : e.value = value := by rw [RankedEntry.value, hview]; rfl
  have hlt := tasks.toNat_lt
  have hcounter : tasks.toCounter.toNat = tasks.toNat := UInt32.toNat_toUInt64 _
  rw [hvalue] at hle
  constructor
  · have hcovered : value ≤ tasks.toCounter := UInt64.le_iff_toNat_le.mpr (by omega)
    obtain ⟨n, hn, hshare⟩ := exists_shareText hcovered (by omega)
    refine ⟨n, hn, String.join (processes.map fun p =>
      Report.line ("\t" ++ Report.commas
        [p.command, Report.number p.value, Report.shareText p.value value])), ?_⟩
    unfold Report.blockedLines
    rw [htasks]
    simp only [Report.singleLines, hview, hshare, hvalue]
  · obtain ⟨m, hm, hof⟩ := Wire.PackageTaskStats.exists_ofEntry htasks hview
    refine ⟨m, hm, ?_⟩
    obtain ⟨tasks', htasks', htotal⟩ := hof.totalTasks
    obtain ⟨value', processes', hview', hblocked, -⟩ := hof.view
    obtain rfl : tasks = tasks' := Option.some.inj (htasks.symm.trans htasks')
    obtain ⟨rfl, -⟩ := View.single.inj (hview.symm.trans hview')
    rw [Int32.le_iff_toInt_le, hblocked, htotal]
    omega

theorem withinTasks_iff (time : Timestamp) (sample : Sample) (bounds : Bounds)
    (filter : PackageFilter) (previous : Option Record) {e : RankedEntry} {p : PackageUse}
    (h : Category.blockedTasks.Shows e p) :
    (Record.compute time sample bounds filter previous).packages.WithinTasks e ↔
      ∃ last, lastOf p.uid sample.packages = some last ∧
        p.group.blockedTasks.toNat ≤ last.group.tasks.toNat := by
  have hvalue : e.value.toNat = p.group.blockedTasks.toNat := h.value
  unfold PackageSummary.WithinTasks
  rw [get?_taskCounts, h.uid, hvalue]
  constructor
  · rintro ⟨tasks, htasks, hle⟩
    obtain ⟨last, hlast, rfl⟩ := Option.map_eq_some_iff.mp htasks
    exact ⟨last, hlast, hle⟩
  · rintro ⟨last, hlast, hle⟩
    exact ⟨last.group.tasks, by rw [hlast]; rfl, hle⟩

/-- **Blocked tasks.** An entry is within the task count of its identifier exactly
if no more tasks of its package are blocked than the last package of the same
identifier has. So all entries are if no package has more blocked tasks than
tasks and no identifier is shared. An entry that is within its count is printed as
a hundred percent at most, and its message has no more blocked tasks than tasks. -/
theorem blocked_within_tasks_iff (time : Timestamp) (sample : Sample) (bounds : Bounds)
    (filter : PackageFilter) (previous : Option Record) :
    let s := (Record.compute time sample bounds filter previous).packages
    (∃ listed, Category.blockedTasks.Listing bounds filter sample.packages listed ∧
      List.Forall₂ (fun e q => Category.blockedTasks.Shows e q.1 ∧
        (s.WithinTasks e ↔ ∃ last, lastOf q.1.uid sample.packages = some last ∧
          q.1.group.blockedTasks.toNat ≤ last.group.tasks.toNat)) s.blockedTasks listed) ∧
      ((∀ p ∈ sample.packages, p.group.blockedTasks.toNat ≤ p.group.tasks.toNat) →
        (sample.packages.map (·.uid)).Nodup → ∀ e ∈ s.blockedTasks, s.WithinTasks e) ∧
      ∀ e ∈ s.blockedTasks, s.WithinTasks e → s.ReportsWithin e := by
  intro s
  refine ⟨?_, fun hle hnodup e he => ?_, fun e he hwithin => ?_⟩
  · obtain ⟨listed, hlisting, hentries⟩ :=
      Category.blockedTasks.exists_listing time sample bounds filter previous
    refine ⟨listed, hlisting, ?_⟩
    show List.Forall₂ _ (Category.blockedTasks.list s) listed
    rw [hentries, List.forall₂_map_left_iff, List.forall₂_same]
    intro q _
    have hshows := Category.blockedTasks.shows_entry bounds q.1
    exact ⟨hshows, withinTasks_iff time sample bounds filter previous hshows⟩
  · obtain ⟨p, hp, hshows⟩ :=
      Category.blockedTasks.exists_package time sample bounds filter previous he
    rw [withinTasks_iff time sample bounds filter previous hshows]
    exact ⟨p, lastOf_of_nodup hp hnodup, hle p hp⟩
  · obtain ⟨p, -, hshows⟩ :=
      Category.blockedTasks.exists_package time sample bounds filter previous he
    obtain ⟨processes, hview⟩ := hshows.counters
    exact hwithin.reportsWithin hview

theorem blocked_within_tasks_iff_single :
    let package : PackageUse := { uid := 7, name := "a", cpuTime := 0
                                  group := { tasks := 5, blockedTasks := 5 } }
    let sample : Sample := { packages := [package] }
    let s := (Record.compute .epoch sample ⟨5, 5⟩ ⟨["a"]⟩ none).packages
    (∀ p ∈ sample.packages, p.group.blockedTasks.toNat ≤ p.group.tasks.toNat) ∧
      (sample.packages.map (·.uid)).Nodup ∧
      ∃ e ∈ s.blockedTasks, s.WithinTasks e ∧ s.ReportsWithin e := by
  intro package sample s
  have hle : ∀ p ∈ sample.packages, p.group.blockedTasks.toNat ≤ p.group.tasks.toNat := by decide
  have hnodup : (sample.packages.map (·.uid)).Nodup := by decide
  obtain ⟨-, hwithin, hreports⟩ := blocked_within_tasks_iff .epoch sample ⟨5, 5⟩ ⟨["a"]⟩ none
  have hmem : package.blockedEntry 5 ∈ s.blockedTasks := List.mem_singleton_self _
  exact ⟨hle, hnodup, _, hmem, hwithin hle hnodup _ hmem,
    hreports _ hmem (hwithin hle hnodup _ hmem)⟩

/-- Two packages of one identifier, each within its own count: the first one is
held against the count of the second. -/
theorem blocked_beyond_tasks :
    let full : PackageUse := { uid := 7, name := "a", cpuTime := 0
                               group := { tasks := 5, blockedTasks := 5 } }
    let idle : PackageUse := { uid := 7, name := "b", cpuTime := 0, group := { tasks := 1 } }
    let s := (Record.compute .epoch { packages := [full, idle] } ⟨5, 5⟩ ⟨["a", "b"]⟩ none).packages
    (∀ p ∈ [full, idle], p.group.blockedTasks.toNat ≤ p.group.tasks.toNat) ∧
      ∃ e ∈ s.blockedTasks, ¬ s.WithinTasks e ∧
        Report.blockedLines s.taskCounts e = "0, a, 5, 500.00%\n" ∧
        ∃ m, Wire.PackageTaskStats.ofEntry? s.taskCounts e = some m ∧
          m.totalTasks < m.blockedTasks := by
  intro full idle s
  have hentry : full.blockedEntry 5 = ⟨7, "a", .single 5 []⟩ := by
    simp [PackageUse.blockedEntry, PackageUse.reportedName, topBy, full, Count.toCounter]
  have hmem : full.blockedEntry 5 ∈ s.blockedTasks := List.mem_cons_self
  rw [hentry] at hmem
  refine ⟨by decide, _, hmem, ?_, by decide +kernel, _, rfl, by decide⟩
  rintro ⟨tasks, htasks, hle⟩
  obtain rfl : 1 = tasks := Option.some.inj htasks
  exact absurd hle (by decide)

end UsageWatch
