import UsageWatch.Proofs.Ranking
import UsageWatch.Proofs.TextRuns
import UsageWatch.Report
/-!
# Lines of a report

An entry is printed as a line for its package and one for each of its
processes, in which names stand before figures. Figures are written with few
characters, so that only names can hold anything else.
-/

namespace UsageWatch

open Report

/-! ## Figures -/

def figureChar (c : Char) : Bool := c.isDigit || c ∈ ['.', '%', '-', 'N', 'a', 'i', 'n', 'f']

/-- A number as it is written, or the words for what is none or has no bound. -/
def IsFigure (s : String) : Prop := s ≠ "" ∧ ∀ c ∈ s.toList, figureChar c = true

theorem isFigure_of_all {s : String} (hne : s ≠ "") (hall : s.toList.all figureChar = true) :
    IsFigure s :=
  ⟨hne, List.all_eq_true.mp hall⟩

theorem IsFigure.append {s t : String} (hs : IsFigure s)
    (ht : ∀ c ∈ t.toList, figureChar c = true) : IsFigure (s ++ t) := by
  refine ⟨by simp [hs.1], fun c hc => ?_⟩
  rw [String.toList_append, List.mem_append] at hc
  exact hc.elim (hs.2 c) (ht c)

theorem isFigure_toString (n : Nat) : IsFigure (toString n) := by
  rw [Nat.toString_eq_repr]
  constructor
  · intro h
    have hempty := congrArg String.toList h
    rw [Nat.toList_repr] at hempty
    exact Nat.toDigits_ne_nil hempty
  · intro c hc
    rw [Nat.toList_repr] at hc
    simp [figureChar, Nat.isDigit_of_mem_toDigits (by decide) (by decide) hc]

theorem isFigure_placesText (places n : Nat) : IsFigure (Decimal.placesText places n) := by
  unfold Decimal.placesText
  simp only []
  split
  · exact isFigure_toString _
  · rw [String.append_assoc, String.append_assoc]
    refine (isFigure_toString _).append fun c hc => ?_
    rw [String.toList_append, String.toList_append, Text.toList_pushn, List.mem_append, List.mem_append,
      List.mem_append] at hc
    rcases hc with hpoint | (hnone | hzero) | hdigit
    · obtain rfl : c = '.' := by simpa using hpoint
      decide
    · simp at hnone
    · obtain rfl := List.eq_of_mem_replicate hzero
      decide
    · exact (isFigure_toString _).2 c hdigit

theorem isFigure_fixed (places : Nat) (x : Float) : IsFigure (Decimal.fixed places x) := by
  unfold Decimal.fixed
  split
  · exact isFigure_of_all (by decide) (by decide)
  · split
    · exact isFigure_of_all (by decide) (by decide)
    · exact isFigure_of_all (by decide) (by decide)
  · split
    · exact (isFigure_of_all (by decide) (by decide)).append (isFigure_placesText _ _).2
    · simpa using isFigure_placesText _ _

theorem isFigure_percentText (x : Float) : IsFigure (percentText x) :=
  (isFigure_fixed 2 x).append (List.all_eq_true.mp (by decide))

theorem isFigure_shareText (part whole : Counter) : IsFigure (shareText part whole) :=
  isFigure_percentText _

theorem isFigure_number (n : Counter) : IsFigure (number n) := isFigure_toString _

/-! ## Entries -/

def View.commands : View → List String
  | .storage _ _ => []
  | .single _ processes => processes.map (·.command)
  | .cpu _ _ processes => processes.map (·.command)

/-- The text is a line for the entry's package, and one for each of its processes. -/
structure RankedEntry.PrintedAs (e : RankedEntry) (text : String) : Prop where
  exists_lines : ∃ (figures : List String) (processes : List (String × List String)),
    figures ≠ [] ∧ (∀ f ∈ figures, IsFigure f) ∧
      processes.map (·.1) = e.view.commands ∧
      (∀ p ∈ processes, p.2 ≠ [] ∧ ∀ f ∈ p.2, IsFigure f) ∧
      text = line (commas (toString (e.uid.toNat / 100000) :: e.package :: figures)) ++
        String.join (processes.map fun p => line ("\t" ++ commas (p.1 :: p.2)))

theorem owner_append (e : RankedEntry) (figures : List String) :
    owner e ++ figures = toString (e.uid.toNat / 100000) :: e.package :: figures := by
  simp [owner, userOf, userStride]

/-- A line with figures for each process. -/
theorem printedAs_of_processes {α : Type} (e : RankedEntry) (figures : List String)
    (processes : List α) (command : α → String) (row : α → List String) (hfigures : figures ≠ [])
    (hfigure : ∀ f ∈ figures, IsFigure f) (hcommands : processes.map command = e.view.commands)
    (hrow : ∀ p ∈ processes, row p ≠ [] ∧ ∀ f ∈ row p, IsFigure f) :
    e.PrintedAs (line (commas (owner e ++ figures)) ++
      String.join (processes.map fun p => line ("\t" ++ commas (command p :: row p)))) := by
  refine ⟨figures, processes.map fun p => (command p, row p), hfigures, hfigure, ?_, ?_, ?_⟩
  · rw [← hcommands, List.map_map]
    rfl
  · intro q hq
    obtain ⟨p, hp, rfl⟩ := List.mem_map.mp hq
    exact hrow p hp
  · rw [owner_append, List.map_map]
    rfl

theorem printedAs_cpuLines (total : Counter) {e : RankedEntry} {cpuTime cpuCycles : Counter}
    {processes : List ProcessCpu} (h : e.view = .cpu cpuTime cpuCycles processes) :
    e.PrintedAs (cpuLines total e) := by
  unfold cpuLines
  rw [h]
  refine printedAs_of_processes e _ processes (·.command) (fun p =>
    [number p.cpuTime, shareText p.cpuTime cpuTime, number p.cpuCycles])
    (by simp) ?_ (by rw [h]; rfl) ?_
  · simp [isFigure_number, isFigure_shareText]
  · simp [isFigure_number, isFigure_shareText]

theorem printedAs_singleLines (total : Counter) {e : RankedEntry} {value : Counter}
    {processes : List ProcessValue} (h : e.view = .single value processes) :
    e.PrintedAs (singleLines total e) := by
  unfold singleLines
  rw [h]
  refine printedAs_of_processes e _ processes (·.command)
    (fun p => [number p.value, shareText p.value value]) (by simp) ?_ (by rw [h]; rfl) ?_
  · simp [isFigure_number, isFigure_shareText]
  · simp [isFigure_number, isFigure_shareText]

theorem printedAs_storageLine (bytesTotal fsyncTotal : Split) {e : RankedEntry}
    {bytes fsyncs : Split}
    (h : e.view = .storage bytes fsyncs) : e.PrintedAs (storageLine bytesTotal fsyncTotal e) := by
  unfold storageLine
  rw [h]
  have hprinted := printedAs_of_processes e
    ([number bytes.foreground, shareText bytes.foreground bytesTotal.foreground,
      number fsyncs.foreground, shareText fsyncs.foreground fsyncTotal.foreground,
      number bytes.background, shareText bytes.background bytesTotal.background,
      number fsyncs.background, shareText fsyncs.background fsyncTotal.background])
    ([] : List String) id (fun _ => []) (by simp)
    (by simp [isFigure_number, isFigure_shareText]) (by rw [h]; rfl) (by simp)
  simpa [String.join] using hprinted

theorem printedAs_blockedLines {counts : TaskCounts} {e : RankedEntry} {tasks : Count}
    {value : Counter} {processes : List ProcessValue} (htasks : counts.get? e.uid = some tasks)
    (h : e.view = .single value processes) : e.PrintedAs (blockedLines counts e) := by
  unfold blockedLines
  rw [htasks]
  exact printedAs_singleLines tasks.toCounter h

/-! ## Lists -/

namespace Category

def all : List Category := [.cpuTime, .storageRead, .storageWrite, .blockedTasks, .majorFaults]

def title : Category → String
  | .cpuTime => "Top N CPU Times:"
  | .storageRead => "Top N Storage I/O Reads:"
  | .storageWrite => "Top N Storage I/O Writes:"
  | .blockedTasks => "Top N I/O waiting UIDs:"
  | .majorFaults => "Top N major page faults:"

def header : Category → String
  | .cpuTime => cpuHeader
  | .storageRead | .storageWrite => storageHeader
  | .blockedTasks => blockedHeader
  | .majorFaults => faultsHeader

def text (s : PackageSummary) : Category → RankedEntry → String
  | .cpuTime => cpuLines s.totalCpuTime
  | .storageRead => storageLine s.storage.read s.storage.fsync
  | .storageWrite => storageLine s.storage.write s.storage.fsync
  | .blockedTasks => blockedLines s.taskCounts
  | .majorFaults => singleLines s.totalMajorFaults

def lines (s : PackageSummary) (c : Category) : String :=
  Report.category c.title c.header (c.list s) (c.text s)

end Category

def changeText (s : PackageSummary) : String :=
  if s.majorFaults.isEmpty then ""
  else
    line ("Number of major page faults since last collection: " ++ number s.totalMajorFaults)
      ++ line ("Percentage of change in major page faults since last collection: "
        ++ percentText s.majorFaultsChange)

theorem packagesText_eq (s : PackageSummary) :
    packagesText s = String.join (Category.all.map (·.lines s)) ++ changeText s := by
  simp only [packagesText, Category.all, List.map_cons, List.map_nil, String.join, List.foldl_cons,
    List.foldl_nil, String.empty_append]
  rfl

end UsageWatch
