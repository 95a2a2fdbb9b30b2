import UsageWatch.Proofs.Projection
import UsageWatch.Proofs.SessionOrder
import UsageWatch.Proofs.TextLines
/-!
# Sections of a report

Readers of a report look for the titles of its sections, and for the marker of those
that are empty. Every line of a report but these is figures and labels, which look
like neither, and names, which are printed as they are.
-/

namespace UsageWatch

open Report

/-! ## Titles and markers -/

def titles : List (List Char) := CollectionKind.all.map (·.title.toList)

def titleLines (s : List Char) : List (List Char) := (Text.fields '\n' s).filter (· ∈ titles)

def markers (s : List Char) : Nat := Text.occurrences emptyMarker.toList s

/-- What a text holds in front of any other. -/
structure Reads (s : String) (lines : List (List Char)) (n : Nat) : Prop where
  titleLines : ∀ rest, titleLines (s.toList ++ rest) = lines ++ titleLines rest
  markers : ∀ rest, markers (s.toList ++ rest) = n + markers rest

theorem reads_empty : Reads "" [] 0 := ⟨fun _ => rfl, fun _ => by simp⟩

theorem Reads.append {s t : String} {lines lines' : List (List Char)} {m n : Nat}
    (hs : Reads s lines m) (ht : Reads t lines' n) : Reads (s ++ t) (lines ++ lines') (m + n) where
  titleLines rest := by
    rw [String.toList_append, List.append_assoc, hs.titleLines, ht.titleLines, List.append_assoc]
  markers rest := by
    rw [String.toList_append, List.append_assoc, hs.markers, ht.markers, Nat.add_assoc]

theorem Reads.titleLines_eq {s : String} {lines : List (List Char)} {n : Nat}
    (h : Reads s lines n) : UsageWatch.titleLines s.toList = lines := by
  have hnil : UsageWatch.titleLines [] = [] := by decide
  rw [← List.append_nil s.toList, h.titleLines, hnil, List.append_nil]

theorem Reads.markers_eq {s : String} {lines : List (List Char)} {n : Nat}
    (h : Reads s lines n) : UsageWatch.markers s.toList = n := by
  have hnil : UsageWatch.markers [] = 0 := by decide
  rw [← List.append_nil s.toList, h.markers, hnil, Nat.add_zero]

/-- The marker without its line end, cut before its last character. -/
def markerBody : List Char := "No collection recorde".toList

theorem emptyMarker_eq : emptyMarker.toList = markerBody ++ ['d'] ++ ['\n'] := by decide

theorem newline_not_mem_markerBody : '\n' ∉ markerBody ++ ['d'] := by decide

theorem reads_ended {s : String} {body : List Char} (h : s.toList = body ++ ['\n']) :
    Reads s (titleLines body) (markers (body ++ ['\n'])) := by
  have hrest : ∀ rest, s.toList ++ rest = body ++ '\n' :: rest := by simp [h]
  constructor
  · intro rest
    rw [hrest, titleLines, Text.fields_append_sep, List.filter_append]
    rfl
  · intro rest
    rw [hrest, markers, markers, markers, emptyMarker_eq,
      Text.occurrences_append_sep newline_not_mem_markerBody]

theorem reads_line (s : String) :
    Reads (line s) (titleLines s.toList) (markers (s.toList ++ ['\n'])) :=
  reads_ended (by simp [line])

/-! ## Lines without marks -/

def IsQuiet (l : List Char) : Prop := l ∉ titles ∧ l.getLast? ≠ some 'd'

/-- What stands before the name on a line. -/
def leadChar (c : Char) : Bool := c.isDigit || c ∈ [',', ' ', '\t']

theorem shape_of_mem_titles {l : List Char} (h : l ∈ titles) :
    '\n' ∉ l ∧ l.getLast? = some ':' ∧ ∀ c ∈ l.head?, leadChar c = false ∧ c ≠ 'T' := by
  obtain ⟨k, -, rfl⟩ := List.mem_map.mp h
  cases k <;> simp only [CollectionKind.title] <;> rw [String.toList_ofList] <;>
    refine ⟨by decide, by decide, fun c hc => ?_⟩ <;>
    obtain rfl := Option.mem_some_iff.mp hc <;> decide

theorem isQuiet_of_getLast? {l : List Char} (h : l.getLast? ≠ some ':' ∧ l.getLast? ≠ some 'd') :
    IsQuiet l :=
  ⟨fun hmem => h.1 (shape_of_mem_titles hmem).2.1, h.2⟩

theorem isQuiet_replicate (n : Nat) {mark : Char} (h : mark ≠ ':' ∧ mark ≠ 'd') :
    IsQuiet (List.replicate n mark) := by
  refine isQuiet_of_getLast? ?_
  rw [List.getLast?_replicate]
  split
  · simp
  · simpa using h

def titlesIn (names : List String) : List (List Char) :=
  names.flatMap fun name => (Text.innerFields '\n' name.toList).filter (· ∈ titles)

def markersIn (names : List String) : Nat := (names.map fun name => markers name.toList).sum

theorem titlesIn_append (names names' : List String) :
    titlesIn (names ++ names') = titlesIn names ++ titlesIn names' := List.flatMap_append

theorem markersIn_append (names names' : List String) :
    markersIn (names ++ names') = markersIn names + markersIn names' := by
  rw [markersIn, List.map_append, List.sum_append]
  rfl

def Mentions (s : String) (names : List String) : Prop := Reads s (titlesIn names) (markersIn names)

theorem mentions_empty : Mentions "" [] := reads_empty

theorem Mentions.append {s t : String} {names names' : List String} (hs : Mentions s names)
    (ht : Mentions t names') : Mentions (s ++ t) (names ++ names') := by
  have h := Reads.append hs ht
  rwa [← titlesIn_append, ← markersIn_append] at h

theorem mentions_join {α : Type} {names : α → List String} {l : List α} {texts : List String}
    (h : List.Forall₂ (fun a s => Mentions s (names a)) l texts) :
    Mentions (String.join texts) (l.flatMap names) := by
  induction h with
  | nil => exact mentions_empty
  | cons hs _ ih =>
    rw [String.join_cons, List.flatMap_cons]
    exact hs.append ih

theorem markers_eq_zero {body : List Char}
    (h : ∀ l ∈ Text.fields '\n' body, l.getLast? ≠ some 'd') : markers (body ++ ['\n']) = 0 := by
  rw [markers, emptyMarker_eq]
  refine Text.occurrences_eq_zero_of_fields newline_not_mem_markerBody fun l hl => ?_
  rintro ⟨before, rfl⟩
  refine h _ hl ?_
  rw [← List.append_assoc, List.getLast?_concat]

theorem mentions_ended {s : String} {body : List Char} (h : s.toList = body ++ ['\n'])
    (hquiet : ∀ l ∈ Text.fields '\n' body, IsQuiet l) : Mentions s [] := by
  have htitles : titleLines body = [] :=
    List.filter_eq_nil_iff.mpr fun l hl => by simpa using (hquiet l hl).1
  have hmarkers : markers (body ++ ['\n']) = 0 := markers_eq_zero fun l hl => (hquiet l hl).2
  have hreads := reads_ended h
  rwa [htitles, hmarkers] at hreads

theorem mentions_line {s : String} (hnewline : '\n' ∉ s.toList) (hquiet : IsQuiet s.toList) :
    Mentions (line s) [] := by
  have hended : (line s).toList = s.toList ++ ['\n'] := by simp [line]
  refine mentions_ended hended ?_
  rw [Text.fields_of_not_mem hnewline]
  simpa using hquiet

theorem mentions_marks (n : Nat) {mark : Char} (h : mark ≠ '\n' ∧ mark ≠ ':' ∧ mark ≠ 'd') :
    Mentions (line ("".pushn mark n)) [] := by
  have hlist : ("".pushn mark n).toList = List.replicate n mark := Text.toList_pushn "" mark n
  refine mentions_line ?_ ?_
  · rw [hlist]
    simp [Ne.symm h.1]
  · rw [hlist]
    exact isQuiet_replicate n h.2

theorem mentions_blank : Mentions "\n" [] :=
  mentions_line (s := "") (by decide) (isQuiet_of_getLast? (by decide))

structure Plain (s : String) : Prop where
  newline_not_mem : '\n' ∉ s.toList
  exists_last : ∃ body c, s.toList = body ++ [c] ∧ c ≠ ':' ∧ c ≠ 'd'

theorem Plain.append {s t : String} (ht : Plain t) (hs : '\n' ∉ s.toList) : Plain (s ++ t) where
  newline_not_mem := by
    rw [String.toList_append, List.mem_append, not_or]
    exact ⟨hs, ht.newline_not_mem⟩
  exists_last := by
    obtain ⟨body, c, hbody, hc⟩ := ht.exists_last
    exact ⟨s.toList ++ body, c, by rw [String.toList_append, hbody, List.append_assoc], hc⟩

theorem Plain.isQuiet_append {s : String} (hs : Plain s) (before : List Char) :
    IsQuiet (before ++ s.toList) := by
  obtain ⟨body, c, hbody, hcolon, hd⟩ := hs.exists_last
  refine isQuiet_of_getLast? ?_
  rw [hbody, ← List.append_assoc, List.getLast?_concat]
  simp [hcolon, hd]

theorem Plain.mentions_line {s : String} (hs : Plain s) : Mentions (line s) [] :=
  UsageWatch.mentions_line hs.newline_not_mem (hs.isQuiet_append [])

/-! ## Lines with a name -/

theorem mentions_nameLine {before behind : String} (hne : before ≠ "")
    (hbefore : ∀ c ∈ before.toList, leadChar c = true) (hbehind : Plain behind) (name : String) :
    Mentions (line (before ++ name ++ behind)) [name] := by
  obtain ⟨body, last, hbody, -, hlast⟩ := hbehind.exists_last
  have hnewline : '\n' ∉ before.toList := fun h => absurd (hbefore _ h) (by decide)
  have hN : 'N' ∉ before.toList := fun h => absurd (hbefore _ h) (by decide)
  obtain ⟨c, rest, hcons⟩ := List.exists_cons_of_ne_nil (mt String.toList_eq_nil_iff.mp hne)
  have hfirst (behind : List Char) : before.toList ++ behind ∉ titles := fun h => by
    have hhead := ((shape_of_mem_titles h).2.2 c (by rw [hcons]; rfl)).1
    rw [hbefore c (by rw [hcons]; exact List.mem_cons_self)] at hhead
    cases hhead
  have hmarkers : markers (before.toList ++ name.toList ++ behind.toList ++ ['\n']) =
      markers name.toList := by
    have hmem : '\n' ∉ body ++ [last] := hbody ▸ hbehind.newline_not_mem
    unfold markers
    rw [emptyMarker_eq, hbody]
    exact Text.occurrences_surrounded rfl hN hmem (Ne.symm hlast) _
  have htitles : titleLines (before.toList ++ name.toList ++ behind.toList) =
      (Text.innerFields '\n' name.toList).filter (· ∈ titles) := by
    unfold titleLines
    rcases Text.fields_surrounded hnewline hbehind.newline_not_mem name.toList with
      ⟨hinner, hfields⟩ | ⟨first, after, hfields⟩
    · have hwhole := hfirst (name.toList ++ behind.toList)
      rw [hfields, hinner]
      simp [hwhole]
    · have hend := (hbehind.isQuiet_append after).1
      have hstart := hfirst first
      rw [hfields]
      simp [hstart, hend]
  have h := reads_line (before ++ name ++ behind)
  rw [String.toList_append, String.toList_append, htitles, hmarkers] at h
  simpa [Mentions, titlesIn, markersIn] using h

/-! ## Parts of a report -/

theorem IsFigure.newline_not_mem {s : String} (hs : IsFigure s) : '\n' ∉ s.toList :=
  fun h => absurd (hs.2 _ h) (by decide)

theorem IsFigure.plain {s : String} (hs : IsFigure s) : Plain s where
  newline_not_mem := hs.newline_not_mem
  exists_last := by
    have hne : s.toList ≠ [] := mt String.toList_eq_nil_iff.mp hs.1
    have hfigure := hs.2 _ (List.getLast_mem hne)
    refine ⟨_, _, (List.dropLast_concat_getLast hne).symm, fun hc => ?_, fun hc => ?_⟩
    · rw [hc] at hfigure
      exact absurd hfigure (by decide)
    · rw [hc] at hfigure
      exact absurd hfigure (by decide)

theorem plain_commas {figures : List String} (hne : figures ≠ [])
    (hfigures : ∀ f ∈ figures, IsFigure f) : Plain (commas figures) := by
  unfold commas
  induction figures with
  | nil => exact absurd rfl hne
  | cons f figures ih =>
    have hf := hfigures f List.mem_cons_self
    cases figures with
    | nil =>
      rw [String.intercalate_singleton]
      exact hf.plain
    | cons g figures =>
      rw [String.intercalate_cons_cons]
      refine (ih (by simp) fun h hh => hfigures h (List.mem_cons_of_mem f hh)).append ?_
      simp [hf.newline_not_mem]

/-- A name with figures behind it. -/
theorem commas_name {figures : List String} (hne : figures ≠ []) (name : String) :
    commas (name :: figures) = name ++ (", " ++ commas figures) := by
  rw [commas, String.intercalate_cons_of_ne_nil hne, String.append_assoc]
  rfl

theorem toString_leadChar (n : Nat) : ∀ c ∈ (toString n).toList, leadChar c = true := by
  intro c hc
  rw [Nat.toString_eq_repr, Nat.toList_repr] at hc
  simp [leadChar, Nat.isDigit_of_mem_toDigits (by decide) (by decide) hc]

def RankedEntry.names (e : RankedEntry) : List String := e.package :: e.view.commands

theorem RankedEntry.PrintedAs.mentions {e : RankedEntry} {text : String} (h : e.PrintedAs text) :
    Mentions text e.names := by
  obtain ⟨figures, processes, hne, hfigures, hcommands, hrows, rfl⟩ := h.exists_lines
  have hplain {figures : List String} (hne : figures ≠ []) (hall : ∀ f ∈ figures, IsFigure f) :
      Plain (", " ++ commas figures) := (plain_commas hne hall).append (by decide)
  have hpackage : Mentions
      (line (commas (toString (e.uid.toNat / 100000) :: e.package :: figures))) [e.package] := by
    rw [commas_name (by simp), commas_name hne, ← String.append_assoc, ← String.append_assoc]
    refine mentions_nameLine (by simp) ?_ (hplain hne hfigures) e.package
    intro c hc
    rw [String.toList_append, List.mem_append] at hc
    rcases hc with hdigit | hcomma
    · exact toString_leadChar _ c hdigit
    · have hlead : (", ").toList.all leadChar = true := by decide
      exact List.all_eq_true.mp hlead c hcomma
  have hprocesses : Mentions
      (String.join (processes.map fun p => line ("\t" ++ commas (p.1 :: p.2))))
      (processes.flatMap fun p => [p.1]) := by
    refine mentions_join (List.forall₂_map_right_iff.mpr (List.forall₂_same.mpr fun p hp => ?_))
    rw [commas_name (hrows p hp).1, ← String.append_assoc]
    exact mentions_nameLine (by decide) (List.all_eq_true.mp (by decide))
      (hplain (hrows p hp).1 (hrows p hp).2) p.1
  have hnames : (processes.flatMap fun p => [p.1]) = e.view.commands := by
    rw [← hcommands, List.map_eq_flatMap]
  rw [hnames] at hprocesses
  exact hpackage.append hprocesses

theorem mentions_title (category : Category) : Mentions (line category.title) [] := by
  have hshape : '\n' ∉ category.title.toList ∧ category.title.toList.head? = some 'T' ∧
      category.title.toList.getLast? ≠ some 'd' := by
    cases category <;> simp only [Category.title] <;> rw [String.toList_ofList] <;> decide
  exact mentions_line hshape.1
    ⟨fun h => ((shape_of_mem_titles h).2.2 'T' hshape.2.1).2 rfl, hshape.2.2⟩

theorem mentions_header (category : Category) : Mentions category.header [] := by
  have hshape : category.header.toList = category.header.toList.dropLast ++ ['\n'] ∧
      ∀ l ∈ Text.fields '\n' category.header.toList.dropLast,
        l.getLast? ≠ some ':' ∧ l.getLast? ≠ some 'd' := by
    cases category <;>
      simp only [Category.header, cpuHeader, storageHeader, blockedHeader, faultsHeader] <;>
      rw [String.toList_ofList] <;> decide +kernel
  exact mentions_ended hshape.1 fun l hl => isQuiet_of_getLast? (hshape.2 l hl)

theorem mentions_heading (s : PackageSummary) (category : Category) :
    Mentions (category.heading s) [] := by
  unfold Category.heading
  split
  · exact mentions_empty
  · have hunderlined : Mentions (underlined '-' category.title) [] :=
      (mentions_title category).append (mentions_marks _ (by decide))
    exact (mentions_blank.append hunderlined).append (mentions_header category)

/-! ## Records -/

def PackageSummary.names (s : PackageSummary) : List String :=
  Category.all.flatMap fun category => (category.list s).flatMap (·.names)

def PackageSummary.IsPrinted (s : PackageSummary) : Prop :=
  ∀ category : Category, ∀ e ∈ category.list s, e.PrintedAs (category.text s e)

theorem mentions_lines {s : PackageSummary} (h : s.IsPrinted) (category : Category) :
    Mentions (category.lines s) ((category.list s).flatMap (·.names)) := by
  have hentries := mentions_join (List.forall₂_map_right_iff.mpr (List.forall₂_same.mpr
    fun e he => (h category e he).mentions))
  rw [Category.lines_eq]
  exact (mentions_heading s category).append hentries

theorem IsFigure.mentions_line {label f : String} (hf : IsFigure f) (hlabel : '\n' ∉ label.toList) :
    Mentions (line (label ++ f)) [] :=
  (hf.plain.append hlabel).mentions_line

theorem mentions_changeText (s : PackageSummary) : Mentions (changeText s) [] := by
  unfold changeText
  split
  · exact mentions_empty
  · exact ((isFigure_number _).mentions_line (by decide)).append
      ((isFigure_percentText _).mentions_line (by decide))

theorem mentions_packagesText {s : PackageSummary} (h : s.IsPrinted) :
    Mentions (packagesText s) s.names := by
  have hlists := mentions_join (List.forall₂_map_right_iff.mpr (List.forall₂_same.mpr
    fun category (_ : category ∈ Category.all) => mentions_lines h category))
  have htext := hlists.append (mentions_changeText s)
  rwa [← packagesText_eq, List.append_nil] at htext

/-- Two figures behind a label. -/
theorem mentions_pair {label f g : String} (hlabel : '\n' ∉ label.toList) (hf : IsFigure f)
    (hg : IsFigure g) : Mentions (line (label ++ f ++ " / " ++ g)) [] := by
  refine hg.mentions_line ?_
  simp [hlabel, hf.newline_not_mem]

theorem mentions_systemText (s : SystemSummary) : Mentions (systemText s) [] := by
  have hnumber (n : Counter) := isFigure_number n
  have hshare (part whole : Counter) := isFigure_shareText part whole
  unfold systemText
  exact ((hnumber _).mentions_line (by decide)).append ((hnumber _).mentions_line (by decide))
    |>.append (mentions_pair (by decide) (hnumber _) (hshare _ _))
    |>.append (mentions_pair (by decide) (hnumber _) (hshare _ _))
    |>.append ((hnumber _).mentions_line (by decide))
    |>.append (mentions_pair (by decide) (isFigure_toString _) (hshare _ _))

theorem mentions_recordText {r : Record} (h : r.packages.IsPrinted) :
    Mentions (recordText r) r.packages.names :=
  (mentions_systemText r.system).append (mentions_packagesText h)

/-! ## Sections -/

theorem newline_not_mem_toDigits (n : Nat) : '\n' ∉ Nat.toDigits 10 n := by
  simpa using (isFigure_toString n).newline_not_mem

theorem newline_not_mem_padded {fill : Char} (h : fill ≠ '\n') (width n : Nat) :
    '\n' ∉ (CivilTime.padded fill width n).toList := by
  unfold CivilTime.padded
  rw [String.toList_append, Text.toList_pushn]
  simp [Ne.symm h, newline_not_mem_toDigits]

theorem newline_not_mem_yearText (y : Int) : '\n' ∉ (CivilTime.yearText y).toList := by
  unfold CivilTime.yearText
  split
  · exact newline_not_mem_padded (by decide) _ _
  · split <;> simp [newline_not_mem_padded]

theorem newline_not_mem_reportText (time : CivilTime) : '\n' ∉ time.reportText.toList := by
  have hweekday : '\n' ∉ (CivilTime.weekdayName time.weekday).toList := by
    unfold CivilTime.weekdayName
    split <;> decide
  have hmonth : '\n' ∉ (CivilTime.monthName time.date.month).toList := by
    unfold CivilTime.monthName
    split <;> decide
  simp [CivilTime.reportText, CivilTime.clockText, hweekday, hmonth, newline_not_mem_padded,
    newline_not_mem_yearText]

theorem mentions_numberedRecord (time : CivilTime) (index : Nat) {r : Record}
    (h : r.packages.IsPrinted) : Mentions (numberedRecord time index r) r.packages.names := by
  have hend : Plain ">" := ⟨by decide, [], '>', by decide, by decide⟩
  have htitle : Mentions
      (line ("Collection " ++ toString index ++ ": <" ++ time.reportText ++ ">")) [] := by
    refine (hend.append ?_).mentions_line
    simp [newline_not_mem_reportText, newline_not_mem_toDigits]
  exact ((mentions_blank.append htitle).append (mentions_marks 45 (by decide))).append
    (mentions_recordText h)

/-- What stands above the records of a collection that has some. -/
theorem mentions_collectionHead (seconds size : Nat) :
    Mentions (line ("Collection duration: " ++ toString seconds ++ " seconds") ++
      line ("Number of collections: " ++ toString size)) [] := by
  have hend : Plain " seconds" := ⟨by decide, " second".toList, 's', by decide, by decide⟩
  refine (hend.append ?_).mentions_line.append ((isFigure_toString size).mentions_line (by decide))
  simp [newline_not_mem_toDigits]

theorem exists_collectionText {c : Collection} (hdated : ∀ r ∈ c.records, r.time.InCalendar)
    (hprinted : ∀ r ∈ c.records, r.packages.IsPrinted) (hne : c.isEmpty = false) :
    ∃ text, collectionText? c = some text ∧
      Mentions text (c.records.flatMap fun r => r.packages.names) := by
  obtain ⟨texts, htexts, hall⟩ := exists_mapM (l := c.records.zipIdx)
    (f := fun q => q.1.time.civil?.map (numberedRecord · q.2 q.1))
    (R := fun q text => Mentions text q.1.packages.names) fun q hq => by
      have hmem := List.fst_mem_of_mem_zipIdx hq
      obtain ⟨time, htime⟩ : ∃ time, q.1.time.civil? = some time :=
        ⟨_, if_pos (hdated q.1 hmem)⟩
      exact ⟨_, by rw [htime]; rfl, mentions_numberedRecord time q.2 (hprinted q.1 hmem)⟩
  have hnames : (c.records.zipIdx.flatMap fun q => q.1.packages.names) =
      c.records.flatMap fun r => r.packages.names := by
    conv_rhs => rw [← List.zipIdx_map_fst 0 c.records, List.flatMap_map]
  have hrecords := mentions_join hall
  rw [hnames] at hrecords
  refine ⟨_, ?_, (mentions_collectionHead c.duration.seconds c.size).append hrecords⟩
  unfold collectionText?
  rw [if_neg (by simp [hne])]
  simp only [htexts]
  rfl

theorem reads_title (k : CollectionKind) : Reads (line k.title) [k.title.toList] 0 := by
  have hmem : k.title.toList ∈ titles := List.mem_map_of_mem (CollectionKind.mem_all k)
  obtain ⟨hnewline, hlast, -⟩ := shape_of_mem_titles hmem
  have hfields := Text.fields_of_not_mem hnewline
  have htitles : titleLines k.title.toList = [k.title.toList] := by
    rw [titleLines, hfields]
    simpa using hmem
  have hmarkers : markers (k.title.toList ++ ['\n']) = 0 :=
    markers_eq_zero (by simp [hfields, hlast])
  have h := reads_line k.title
  rwa [htitles, hmarkers] at h

theorem reads_sectionHeader (k : CollectionKind) : Reads (sectionHeader k) [k.title.toList] 0 := by
  have hdashes : Mentions (line ("".pushn '-' 75)) [] := mentions_marks 75 (by decide)
  have hunderline : Mentions (line ("".pushn '=' (k.title.length - 1))) [] :=
    mentions_marks _ (by decide)
  exact Reads.append hdashes ((reads_title k).append hunderline)

theorem reads_emptyMarker : Reads emptyMarker [] 1 := by
  have htitles : titleLines (markerBody ++ ['d']) = [] := by
    rw [titleLines, Text.fields_of_not_mem newline_not_mem_markerBody]
    have hnot : markerBody ++ ['d'] ∉ titles := fun h => by
      have hlast := (shape_of_mem_titles h).2.1
      rw [List.getLast?_concat] at hlast
      cases hlast
    simp [hnot]
  have hmarkers : markers (markerBody ++ ['d'] ++ ['\n']) = 1 := by decide
  have h := reads_ended emptyMarker_eq
  rwa [htitles, hmarkers] at h

theorem mentions_sessionHead (index : Nat) (session : Session) :
    Mentions ("\n" ++ line ("Event " ++ toString index ++ ": From: " ++
      toString session.origin.toNat ++ " To: " ++ toString session.target.toNat) ++
        line ("".pushn '=' 26)) [] := by
  have htitle : Mentions (line ("Event " ++ toString index ++ ": From: " ++
      toString session.origin.toNat ++ " To: " ++ toString session.target.toNat)) [] := by
    refine (isFigure_toString _).mentions_line ?_
    simp [newline_not_mem_toDigits]
  exact (mentions_blank.append htitle).append (mentions_marks 26 (by decide))

theorem exists_sessionText {session : Session} (index : Nat)
    (hdated : ∀ r ∈ session.collection.records, r.time.InCalendar)
    (hprinted : ∀ r ∈ session.collection.records, r.packages.IsPrinted)
    (hne : session.collection.isEmpty = false) :
    ∃ text, sessionText? index session = some text ∧
      Mentions text (session.collection.records.flatMap fun r => r.packages.names) := by
  obtain ⟨text, htext, hmentions⟩ := exists_collectionText hdated hprinted hne
  refine ⟨_, ?_, (mentions_sessionHead index session).append hmentions⟩
  unfold sessionText?
  rw [htext]
  rfl

def ReadsSection (text : String) (k : CollectionKind) (empty : Bool) (names : List String) : Prop :=
  Reads text (k.title.toList :: titlesIn names) ((if empty then 1 else 0) + markersIn names)

theorem readsSection_empty (k : CollectionKind) :
    ReadsSection (sectionHeader k ++ emptyMarker) k true [] :=
  (reads_sectionHeader k).append reads_emptyMarker

theorem readsSection_body {k : CollectionKind} {body : String} {names : List String}
    (h : Mentions body names) : ReadsSection (sectionHeader k ++ body) k false names :=
  (reads_sectionHeader k).append h

theorem reads_sections {empty : CollectionKind → Bool} {names : CollectionKind → List String}
    {kinds : List CollectionKind} {texts : List String}
    (h : List.Forall₂ (fun k text => ReadsSection text k (empty k) (names k)) kinds texts) :
    Reads (String.join texts) (kinds.flatMap fun k => k.title.toList :: titlesIn (names k))
      (kinds.countP empty + markersIn (kinds.flatMap names)) := by
  induction h with
  | nil => exact reads_empty
  | @cons k text kinds texts hsection _ ih =>
    have h := Reads.append hsection ih
    have hcount : (if empty k then 1 else 0) + markersIn (names k) +
        (kinds.countP empty + markersIn (kinds.flatMap names)) =
          (k :: kinds).countP empty + markersIn ((k :: kinds).flatMap names) := by
      rw [List.countP_cons, List.flatMap_cons, markersIn_append]
      omega
    rw [hcount, ← String.join_cons] at h
    exact h

theorem exists_collectionSection {c : Collection} (k : CollectionKind)
    (hdated : ∀ r ∈ c.records, r.time.InCalendar)
    (hprinted : ∀ r ∈ c.records, r.packages.IsPrinted) :
    ∃ text, collectionSection? k c = some text ∧
      ReadsSection text k c.isEmpty (c.records.flatMap fun r => r.packages.names) := by
  unfold collectionSection?
  cases hempty : c.isEmpty with
  | true =>
    have hrecords : c.records = [] := List.isEmpty_iff.mp hempty
    have htext : collectionText? c = some emptyMarker := if_pos hempty
    rw [htext, hrecords]
    exact ⟨_, rfl, readsSection_empty k⟩
  | false =>
    obtain ⟨body, hbody, hmentions⟩ := exists_collectionText hdated hprinted hempty
    rw [hbody]
    exact ⟨_, rfl, readsSection_body hmentions⟩

theorem exists_sessionsSection {s : SessionStore} (hpopulated : s.Populated)
    (hdated : ∀ session ∈ s.sessions, ∀ r ∈ session.collection.records, r.time.InCalendar)
    (hprinted : ∀ r ∈ s.records, r.packages.IsPrinted) :
    ∃ text, sessionsSection? s = some text ∧
      ReadsSection text .userSwitch s.isEmpty (s.records.flatMap fun r => r.packages.names) := by
  unfold sessionsSection? SessionStore.records
  cases hempty : s.isEmpty with
  | true =>
    have hsessions : s.sessions = [] := List.isEmpty_iff.mp hempty
    have htext : sessionsText? s = some emptyMarker := if_pos hempty
    rw [htext, hsessions]
    exact ⟨_, rfl, readsSection_empty .userSwitch⟩
  | false =>
    obtain ⟨texts, htexts, hall⟩ := exists_mapM (l := s.sessions.zipIdx)
      (f := fun q => sessionText? q.2 q.1)
      (R := fun q text => Mentions text (q.1.collection.records.flatMap fun r => r.packages.names))
      fun q hq => by
        have hmem := List.fst_mem_of_mem_zipIdx hq
        exact exists_sessionText q.2 (hdated q.1 hmem)
          (fun r hr => hprinted r (List.mem_flatMap.mpr ⟨q.1, hmem, hr⟩))
          (hpopulated.nonempty q.1 hmem)
    have hnames : (s.sessions.zipIdx.flatMap fun q =>
        q.1.collection.records.flatMap fun r => r.packages.names) =
          (s.sessions.flatMap (·.collection.records)).flatMap fun r => r.packages.names := by
      conv_rhs => rw [← List.zipIdx_map_fst 0 s.sessions, List.flatMap_map, List.flatMap_assoc]
    have hsessions := mentions_join hall
    rw [hnames] at hsessions
    have hcount : Mentions (line ("Number of user switch events: " ++ toString s.size)) [] :=
      (isFigure_toString _).mentions_line (by decide)
    refine ⟨_, ?_, readsSection_body (hcount.append hsessions)⟩
    unfold sessionsText?
    rw [if_neg (by simp [hempty])]
    simp only [htexts]
    rfl

end UsageWatch
