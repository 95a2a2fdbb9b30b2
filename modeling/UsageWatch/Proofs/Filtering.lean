import UsageWatch.Proofs.Ranking
/-!
# Filtered lists

With a filter a list holds every package that the filter names, in the order of
the sample, and without one the first of the ranked packages. The entries are
made alike: ranking the entries of a filter that names every package gives the
list without a filter (`filtered_lists_agree`).
-/

namespace UsageWatch

namespace PackageFilter

theorem eq_empty {filter : PackageFilter} (h : filter.isEmpty = true) : filter = {} := by
  obtain ⟨names⟩ := filter
  obtain rfl : names = [] := List.isEmpty_iff.mp h
  rfl

theorem admits_iff {filter : PackageFilter} (h : filter.isEmpty = false) (name : String) :
    filter.admits name = decide (name ∈ filter) := by
  rw [admits, h, Bool.false_or]

end PackageFilter

theorem rank_named {filter : PackageFilter} (h : filter.isEmpty = false) (bounds : Bounds)
    (entry : PackageUse → RankedEntry) (packages : List PackageUse) :
    rank bounds filter entry packages =
      (packages.filter (·.reportedName ∈ filter)).map entry := by
  simp [rank, h, PackageFilter.admits_iff h]

namespace Category

/-- The packages that a list shows, each with its position in the sample. -/
structure Listing (category : Category) (bounds : Bounds) (filter : PackageFilter)
    (packages : List PackageUse) (listed : List (PackageUse × Nat)) : Prop where
  named : filter.isEmpty = false → listed = packages.zipIdx.filter (·.1.reportedName ∈ filter)
  ranked : filter.isEmpty = true → IsTop category.amount bounds.packages packages listed

theorem list_named {filter : PackageFilter} (h : filter.isEmpty = false) (category : Category)
    (time : Timestamp) (sample : Sample) (bounds : Bounds) (previous : Option Record) :
    category.list (Record.compute time sample bounds filter previous).packages =
      (sample.packages.filter (·.reportedName ∈ filter)).map (category.entry bounds) := by
  rw [category.list_compute, rank_named h]

theorem exists_listing (category : Category) (time : Timestamp) (sample : Sample)
    (bounds : Bounds) (filter : PackageFilter) (previous : Option Record) :
    ∃ listed, category.Listing bounds filter sample.packages listed ∧
      category.list (Record.compute time sample bounds filter previous).packages =
        listed.map fun q => category.entry bounds q.1 := by
  cases hfilter : filter.isEmpty with
  | true =>
    obtain rfl := PackageFilter.eq_empty hfilter
    have htop := isTop_ranking category.amount bounds.packages sample.packages
    exact ⟨_, ⟨nofun, fun _ => htop⟩, category.list_eq_ranking time sample bounds previous⟩
  | false =>
    refine ⟨_, ⟨fun _ => rfl, by simp [hfilter]⟩, ?_⟩
    rw [list_named hfilter]
    exact (map_filter_zipIdx (·.reportedName ∈ filter) (category.entry bounds) sample.packages).symm

theorem Listing.subperm {category : Category} {bounds : Bounds} {filter : PackageFilter}
    {packages : List PackageUse} {listed : List (PackageUse × Nat)}
    (h : category.Listing bounds filter packages listed) : listed.Subperm packages.zipIdx := by
  cases hfilter : filter.isEmpty with
  | true => exact (h.ranked hfilter).subperm
  | false =>
    rw [h.named hfilter]
    exact List.filter_sublist.subperm

end Category

/-- **Lists with a filter.** They show each package that the filter names, in
the order of the sample, whatever its amount and the bound, and no others: so
all five name the same packages, and the other packages of the sample do not
count. If the filter names every package, the entries with a non-zero value
ranked by it and cut to the bound are the list without a filter. -/
theorem filtered_lists_agree (category : Category) (time : Timestamp) (sample : Sample)
    (bounds : Bounds) (filter : PackageFilter) (previous : Option Record)
    (hfilter : filter.isEmpty = false) :
    let list (sample : Sample) (bounds : Bounds) (filter : PackageFilter) : List RankedEntry :=
      category.list (Record.compute time sample bounds filter previous).packages
    let entries := list sample bounds filter
    let named := sample.packages.filter (·.reportedName ∈ filter)
    let value (e : RankedEntry) : Nat := e.value.toNat
    List.Forall₂ category.Shows entries named ∧
      entries.map (fun e => (e.uid, e.package)) = named.map (fun p => (p.uid, p.reportedName)) ∧
      (∀ packages, list sample { bounds with packages } filter = entries) ∧
      list { sample with packages := named } bounds filter = entries ∧
      ((∀ p ∈ sample.packages, p.reportedName ∈ filter) →
        ∃ top, IsTop value bounds.packages entries top ∧ list sample bounds {} = top.map (·.1)) := by
  intro list entries named value
  have hentries : entries = named.map (category.entry bounds) :=
    category.list_named hfilter time sample bounds previous
  have hshows : List.Forall₂ category.Shows entries named := by
    rw [hentries, List.forall₂_map_left_iff, List.forall₂_same]
    exact fun p _ => category.shows_entry bounds p
  refine ⟨hshows, ?_, fun packages => ?_, ?_, fun hall => ?_⟩
  · rw [hentries, List.map_map]
    refine List.map_congr_left fun p _ => ?_
    have hshown := category.shows_entry bounds p
    exact congrArg₂ Prod.mk hshown.uid hshown.package
  · rw [hentries]
    exact category.list_named hfilter time sample _ previous
  · have hnamed : named.filter (·.reportedName ∈ filter) = named := by simp [named]
    have hagain := category.list_named hfilter time { sample with packages := named } bounds previous
    rw [hnamed] at hagain
    exact hagain.trans hentries.symm
  · have hevery : named = sample.packages := List.filter_eq_self.mpr (by simpa using hall)
    have hunfiltered : list sample bounds {} = topBy (·.value) bounds.packages (entries.map id) := by
      rw [List.map_id, hentries, hevery, ← rank_empty]
      exact category.list_compute time sample bounds {} previous
    rw [hunfiltered]
    exact exists_isTop_map _ _ id entries

/-- A package without a name is reported by its identifier, and both packages
are listed by a filter for two names though no package has storage traffic. -/
theorem filtered_lists_agree_unnamed :
    let sample : Sample :=
      { packages := [{ uid := 7, cpuTime := 5 }, { uid := 9, name := "a", cpuTime := 8 }] }
    let filter : PackageFilter := ⟨["7", "a"]⟩
    let record (bounds : Bounds) (filter : PackageFilter) : Record :=
      .compute .epoch sample bounds filter none
    filter.isEmpty = false ∧ (∀ p ∈ sample.packages, p.reportedName ∈ filter) ∧
      (record ⟨1, 1⟩ filter).packages.storageReads.length = 2 ∧
      (record ⟨1, 1⟩ filter).packages.cpuTimes = (record ⟨0, 1⟩ filter).packages.cpuTimes ∧
      ∃ top, IsTop (·.value.toNat) 1 (record ⟨1, 1⟩ filter).packages.cpuTimes top ∧
        (record ⟨1, 1⟩ {}).packages.cpuTimes = top.map (·.1) := by
  intro sample filter record
  have hall : ∀ p ∈ sample.packages, p.reportedName ∈ filter := by decide
  obtain ⟨-, -, hbounds, -, hranked⟩ :=
    filtered_lists_agree .cpuTime .epoch sample ⟨1, 1⟩ filter none rfl
  exact ⟨rfl, hall, by decide, (hbounds 0).symm, hranked hall⟩

end UsageWatch
