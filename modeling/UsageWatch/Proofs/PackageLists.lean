import Mathlib.Data.Finset.Union
import Mathlib.Data.List.Sort
import Mathlib.Data.String.Basic
import UsageWatch.PackageFilter
import UsageWatch.Proofs.TextLines
import UsageWatch.Proofs.TextRuns
/-!
# Lists of packages

A filter stands for a set of names (`toFinset`), and reading a list of packages takes commas
to unions. So a list is read item by item, and from any list of the names of a set, however
its items are ordered, repeated and padded, that set is read back (`package_lists_parsed`).
-/

namespace UsageWatch

namespace PackageFilter

def toFinset (f : PackageFilter) : Finset String := f.names.toFinset

structure IsName (name : String) : Prop where
  ne_empty : name ≠ ""
  comma_not_mem : ',' ∉ name.toList
  trimmed : Text.Trimmed name.toList

/-- The name with blanks around it; an item that shows the empty name is blank. -/
def Shows (item name : String) : Prop :=
  ∃ before behind, item.toList = before ++ name.toList ++ behind ∧
    (∀ c ∈ before, Text.isBlank c = true) ∧ ∀ c ∈ behind, Text.isBlank c = true

structure Lists (items : List String) (names : Finset String) : Prop where
  shown : ∀ name ∈ names, ∃ item ∈ items, Shows item name
  others : ∀ item ∈ items, (∃ name ∈ names, Shows item name) ∨ Shows item ""

/-! ## Sets of names -/

theorem mem_insertName {name other : String} {names : List String} :
    other ∈ insertName name names ↔ other = name ∨ other ∈ names := by
  induction names with
  | nil => rw [insertName, List.mem_singleton, or_iff_left List.not_mem_nil]
  | cons first rest ih =>
    rw [insertName]
    split
    · rw [List.mem_cons]
    · split
      · next hname =>
        subst hname
        rw [List.mem_cons, or_self_left]
      · rw [List.mem_cons, ih, List.mem_cons, or_left_comm]

theorem mem_ofNames {name : String} {names : List String} : name ∈ ofNames names ↔ name ∈ names := by
  induction names with
  | nil => exact Iff.rfl
  | cons first rest ih =>
    have hinsert : name ∈ ofNames (first :: rest) ↔ name = first ∨ name ∈ ofNames rest :=
      mem_insertName
    rw [hinsert, ih, List.mem_cons]

theorem pairwise_insertName (name : String) {names : List String} (h : names.Pairwise (· < ·)) :
    (insertName name names).Pairwise (· < ·) := by
  induction names with
  | nil => exact List.pairwise_singleton _ _
  | cons first rest ih =>
    obtain ⟨hfirst, hrest⟩ := List.pairwise_cons.mp h
    rw [insertName]
    split
    · next hlt =>
      refine List.pairwise_cons.mpr ⟨fun other hother => ?_, h⟩
      rcases List.mem_cons.mp hother with rfl | hother
      · exact hlt
      · exact hlt.trans (hfirst other hother)
    · next hlt =>
      split
      · exact h
      · next hne =>
        have hgt : first < name := lt_of_le_of_ne (not_lt.mp hlt) (Ne.symm hne)
        refine List.pairwise_cons.mpr ⟨fun other hother => ?_, ih hrest⟩
        rcases mem_insertName.mp hother with rfl | hother
        · exact hgt
        · exact hfirst other hother

theorem pairwise_ofNames (names : List String) : (ofNames names).names.Pairwise (· < ·) := by
  induction names with
  | nil => exact List.Pairwise.nil
  | cons first rest ih => exact pairwise_insertName first ih

theorem mem_toFinset {name : String} {f : PackageFilter} : name ∈ f.toFinset ↔ name ∈ f :=
  List.mem_toFinset

/-- Filters in the form that `ofNames` gives them are equal if their sets are. -/
theorem toFinset_ofNames_inj {names others : List String} :
    (ofNames names).toFinset = (ofNames others).toFinset ↔ ofNames names = ofNames others := by
  constructor
  · intro h
    have hnames : (ofNames names).names = (ofNames others).names :=
      (pairwise_ofNames names).eq_of_mem_iff (pairwise_ofNames others) fun name => by
        rw [← List.mem_toFinset, ← List.mem_toFinset]
        exact Finset.ext_iff.mp h name
    exact congrArg PackageFilter.mk hnames
  · exact congrArg toFinset

/-! ## Reading a list -/

theorem mem_parse_iff {name s : String} :
    name ∈ (parse s).toFinset ↔
      ∃ item ∈ Text.fields ',' s.toList, Text.trim item = name.toList ∧ name ≠ "" := by
  rw [mem_toFinset, parse, mem_ofNames]
  constructor
  · intro h
    obtain ⟨kept, hkept, rfl⟩ := List.mem_map.mp h
    obtain ⟨hkept, hne⟩ := List.mem_filter.mp hkept
    obtain ⟨item, hitem, rfl⟩ := List.mem_map.mp hkept
    refine ⟨item, hitem, String.toList_ofList.symm, ?_⟩
    simpa using hne
  · rintro ⟨item, hitem, htrim, hne⟩
    have hkept : Text.trim item ≠ [] := by
      rw [htrim]
      simpa using hne
    refine List.mem_map.mpr ⟨Text.trim item, List.mem_filter.mpr ⟨List.mem_map_of_mem hitem, ?_⟩, ?_⟩
    · simpa using hkept
    · rw [htrim, String.ofList_toList]

theorem isName_of_mem_parse {name s : String} (h : name ∈ (parse s).toFinset) : IsName name := by
  obtain ⟨item, hitem, htrim, hne⟩ := mem_parse_iff.mp h
  refine ⟨hne, fun hcomma => ?_, ?_⟩
  · rw [← htrim] at hcomma
    exact Text.not_mem_of_mem_fields hitem (Text.mem_of_mem_trim hcomma)
  · rw [← htrim]
    exact Text.trimmed_trim item

theorem toFinset_parse_append (a b : String) :
    (parse (a ++ "," ++ b)).toFinset = (parse a).toFinset ∪ (parse b).toFinset := by
  ext name
  have htext : (a ++ "," ++ b).toList = a.toList ++ ',' :: b.toList := by simp
  rw [Finset.mem_union, mem_parse_iff, mem_parse_iff, mem_parse_iff, htext, Text.fields_append_sep]
  simp only [List.mem_append, or_and_right, exists_or]

theorem toFinset_parse_intercalate (items : List String) :
    (parse (",".intercalate items)).toFinset = items.toFinset.biUnion fun item => (parse item).toFinset := by
  -- An item may have commas itself: only the ones between the items are cut here.
  induction items with
  | nil => decide
  | cons item rest ih =>
    cases rest with
    | nil => simp
    | cons second rest =>
      have hcons : ",".intercalate (item :: second :: rest) =
          item ++ "," ++ ",".intercalate (second :: rest) := String.intercalate_cons_cons
      have hset : (item :: second :: rest).toFinset = insert item (second :: rest).toFinset :=
        List.toFinset_cons
      rw [hcons, toFinset_parse_append, ih, hset, Finset.biUnion_insert]

/-! ## One item -/

theorem trimmed_empty : Text.Trimmed "".toList := Text.trimmed_trim []

theorem shows_iff {item name : String} (htrimmed : Text.Trimmed name.toList) :
    Shows item name ↔ Text.trim item.toList = name.toList := by
  constructor
  · rintro ⟨before, behind, hitem, hbefore, hbehind⟩
    rw [hitem, Text.trim_surrounded hbefore htrimmed hbehind]
  · intro htrim
    rw [Shows, ← htrim]
    exact Text.exists_trim item.toList

theorem Shows.fields_eq {item name : String} (hshows : Shows item name) (hcomma : ',' ∉ name.toList) :
    Text.fields ',' item.toList = [item.toList] := by
  obtain ⟨before, behind, hitem, hbefore, hbehind⟩ := hshows
  rw [hitem]
  exact Text.fields_of_not_mem (Text.not_mem_surrounded (by decide) hbefore hbehind hcomma)

theorem Shows.mem_parse_iff {item name other : String} (hshows : Shows item name)
    (hcomma : ',' ∉ name.toList) (htrimmed : Text.Trimmed name.toList) :
    other ∈ (parse item).toFinset ↔ other = name ∧ other ≠ "" := by
  rw [PackageFilter.mem_parse_iff, hshows.fields_eq hcomma]
  simp only [List.mem_singleton, exists_eq_left, (shows_iff htrimmed).mp hshows, String.toList_inj]
  rw [eq_comm]

theorem Shows.toFinset_parse {item name : String} (hshows : Shows item name) (hname : IsName name) :
    (parse item).toFinset = {name} := by
  ext other
  rw [hshows.mem_parse_iff hname.comma_not_mem hname.trimmed, Finset.mem_singleton]
  exact and_iff_left_of_imp fun h => h ▸ hname.ne_empty

theorem Shows.toFinset_parse_blank {item : String} (hshows : Shows item "") :
    (parse item).toFinset = ∅ := by
  refine Finset.eq_empty_of_forall_notMem fun other hother => ?_
  obtain ⟨hempty, hne⟩ := (hshows.mem_parse_iff List.not_mem_nil trimmed_empty).mp hother
  exact hne hempty

theorem Lists.toFinset_parse {items : List String} {names : Finset String} (hlists : Lists items names)
    (hnames : ∀ name ∈ names, IsName name) : (parse (",".intercalate items)).toFinset = names := by
  rw [toFinset_parse_intercalate]
  ext name
  simp only [Finset.mem_biUnion, List.mem_toFinset]
  constructor
  · rintro ⟨item, hitem, hname⟩
    rcases hlists.others item hitem with ⟨shown, hshown, hshows⟩ | hblank
    · rw [hshows.toFinset_parse (hnames shown hshown), Finset.mem_singleton] at hname
      rwa [hname]
    · rw [hblank.toFinset_parse_blank] at hname
      cases hname
  · intro hname
    obtain ⟨item, hitem, hshows⟩ := hlists.shown name hname
    refine ⟨item, hitem, ?_⟩
    rw [hshows.toFinset_parse (hnames name hname)]
    exact Finset.mem_singleton_self name

end PackageFilter

/-- **The names of a list of packages.** The names of two lists with a comma between them are
those of both lists. No name that is read is empty, has a comma or has a blank at either end,
and any set of such names is read from each list that shows just these, in any order and as
often as it likes, padded with blanks and with blank items between them. What is read is the
same filter if it is the same set. -/
theorem package_lists_parsed :
    let read (s : String) : Finset String := (PackageFilter.parse s).toFinset
    (∀ a b : String, read (a ++ "," ++ b) = read a ∪ read b) ∧
      (∀ s : String, ∀ name ∈ read s, PackageFilter.IsName name) ∧
      (∀ names : Finset String, (∀ name ∈ names, PackageFilter.IsName name) →
        ∀ items : List String, PackageFilter.Lists items names →
          read (",".intercalate items) = names) ∧
      ∀ s t : String, read s = read t ↔ PackageFilter.parse s = PackageFilter.parse t := by
  intro read
  refine ⟨PackageFilter.toFinset_parse_append, fun s name h => PackageFilter.isName_of_mem_parse h,
    fun names hnames items hlists => ?_, fun s t => ?_⟩
  · exact hlists.toFinset_parse hnames
  · exact PackageFilter.toFinset_ofNames_inj

/-- Two names, one of them twice, with blanks around them and inside one, and blank items. -/
theorem package_lists_parsed_padded :
    let names : Finset String := {"a", "b c"}
    let items := ["b c\t", " ", "a", "", "\u00a0b c"]
    (∀ name ∈ names, PackageFilter.IsName name) ∧ PackageFilter.Lists items names ∧
      (PackageFilter.parse "b c\t, ,a,,\u00a0b c").toFinset = names ∧
      PackageFilter.parse "b c\t, ,a,,\u00a0b c" = PackageFilter.parse "a,b c" := by
  intro names items
  obtain ⟨-, hname, hread, hequal⟩ := package_lists_parsed
  have hplain : (PackageFilter.parse "a,b c").toFinset = names := by decide
  have hnames : ∀ name ∈ names, PackageFilter.IsName name := by
    rw [← hplain]
    exact hname "a,b c"
  have hlists : PackageFilter.Lists items names := by
    refine ⟨fun name h => ?_, fun item h => ?_⟩
    · have hshown : ∀ name ∈ names, ∃ item ∈ items, Text.trim item.toList = name.toList := by decide
      obtain ⟨item, hitem, htrim⟩ := hshown name h
      exact ⟨item, hitem, (PackageFilter.shows_iff (hnames name h).trimmed).mpr htrim⟩
    · have hothers : ∀ item ∈ items, (∃ name ∈ names, Text.trim item.toList = name.toList) ∨
          Text.trim item.toList = "".toList := by decide
      rcases hothers item h with ⟨name, hshown, htrim⟩ | htrim
      · exact .inl ⟨name, hshown, (PackageFilter.shows_iff (hnames name hshown).trimmed).mpr htrim⟩
      · exact .inr ((PackageFilter.shows_iff PackageFilter.trimmed_empty).mpr htrim)
  have hset : (PackageFilter.parse "b c\t, ,a,,\u00a0b c").toFinset = names :=
    hread names hnames items hlists
  exact ⟨hnames, hlists, hset, (hequal _ _).mp (hset.trans hplain.symm)⟩

end UsageWatch
