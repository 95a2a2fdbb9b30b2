import Mathlib
import UsageWatch.Proofs.Filtering
/-!
# Samples in another order, and other bounds

The values that a list shows do not depend on the order in which the packages
were sampled, and where no two packages tie the whole list does not. A smaller
bound only cuts: the packages of a list, or the processes of its entries
(`reordered_lists_agree`).
-/

namespace UsageWatch

/-! ## The largest items -/

section
variable {α β : Type} {key : α → Counter}

/-- What is shown of the largest items are the largest of what is shown. -/
theorem map_topBy {key' : β → Counter} {f : α → β} (h : ∀ a, key' (f a) = key a) (limit : Nat)
    (xs : List α) : (topBy key limit xs).map f = topBy key' limit (xs.map f) := by
  unfold topBy
  have hfilter : (xs.map f).filter (0 < key' ·) = (xs.filter (0 < key ·)).map f := by
    simp [List.filter_map, Function.comp_def, h]
  rw [hfilter, List.map_take, List.map_mergeSort]
  intro a _ b _
  rw [h, h]

theorem take_topBy {n limit : Nat} (h : n ≤ limit) (xs : List α) :
    (topBy key limit xs).take n = topBy key n xs := by
  unfold topBy
  rw [List.take_take, Nat.min_eq_left h]

/-- The order of the items shows only where two of them tie. -/
theorem topBy_eq_of_perm {xs ys : List α} (h : xs.Perm ys)
    (hties : ∀ a ∈ xs, ∀ b ∈ xs, 0 < key a → key a = key b → a = b) (limit : Nat) :
    topBy key limit xs = topBy key limit ys := by
  let le (a b : α) : Bool := key b ≤ key a
  have hsorted (items : List α) : (items.mergeSort le).Pairwise fun a b => key b ≤ key a := by
    refine (List.pairwise_mergeSort (fun a b c hab hbc => ?_) (fun a b => ?_) items).imp ?_
    · simp only [le, decide_eq_true_eq] at hab hbc ⊢
      exact UInt64.le_trans hbc hab
    · simp only [le, Bool.or_eq_true, decide_eq_true_eq]
      exact UInt64.le_total _ _
    · exact fun hab => of_decide_eq_true hab
  have hperm : ((xs.filter (0 < key ·)).mergeSort le).Perm ((ys.filter (0 < key ·)).mergeSort le) :=
    (List.mergeSort_perm _ _).trans ((h.filter _).trans (List.mergeSort_perm _ _).symm)
  unfold topBy
  refine congrArg (List.take limit) (hperm.eq_of_pairwise (fun a b ha hb hab hba => ?_)
    (hsorted _) (hsorted _))
  have hitem {c : α} (hc : c ∈ (xs.filter (0 < key ·)).mergeSort le) : c ∈ xs ∧ 0 < key c := by
    simpa using List.mem_mergeSort.mp hc
  obtain ⟨hmem, hpos⟩ := hitem ha
  exact hties a hmem b (hitem (hperm.mem_iff.mpr hb)).1 hpos (UInt64.le_antisymm hba hab)

end

/-! ## Entries with fewer processes -/

def View.cutTo (n : Nat) : View → View
  | .storage bytes fsyncs => .storage bytes fsyncs
  | .single value processes => .single value (processes.take n)
  | .cpu cpuTime cpuCycles processes => .cpu cpuTime cpuCycles (processes.take n)

def RankedEntry.cutTo (n : Nat) (e : RankedEntry) : RankedEntry := { e with view := e.view.cutTo n }

theorem RankedEntry.value_cutTo (n : Nat) (e : RankedEntry) : (e.cutTo n).value = e.value := by
  obtain ⟨uid, package, view⟩ := e
  cases view <;> rfl

namespace Category

theorem cutTo_entry (category : Category) {bounds : Bounds} {n : Nat} (h : n ≤ bounds.processes)
    (p : PackageUse) :
    (category.entry bounds p).cutTo n = category.entry { bounds with processes := n } p := by
  cases category with
  | storageRead | storageWrite => rfl
  | cpuTime | blockedTasks | majorFaults =>
    simp only [entry, RankedEntry.cutTo, PackageUse.cpuEntry, PackageUse.blockedEntry,
      PackageUse.faultsEntry, View.cutTo, take_topBy h]

/-! ## Lists -/

section
variable (category : Category) (time : Timestamp) (sample : Sample) (bounds : Bounds)
  (previous : Option Record)

theorem list_eq_topBy : category.list (Record.compute time sample bounds {} previous).packages =
    topBy (·.value) bounds.packages (sample.packages.map (category.entry bounds)) := by
  rw [category.list_compute, rank_empty]

theorem map_cutTo_list {n : Nat} (h : n ≤ bounds.processes) (filter : PackageFilter) :
    (category.list (Record.compute time sample bounds filter previous).packages).map (·.cutTo n) =
      category.list
        (Record.compute time sample { bounds with processes := n } filter previous).packages := by
  have hentries (packages : List PackageUse) :
      (packages.map (category.entry bounds)).map (·.cutTo n) =
        packages.map (category.entry { bounds with processes := n }) := by
    rw [List.map_map]
    exact List.map_congr_left fun p _ => category.cutTo_entry h p
  cases hfilter : filter.isEmpty with
  | true =>
    obtain rfl := PackageFilter.eq_empty hfilter
    rw [list_eq_topBy, list_eq_topBy, map_topBy (RankedEntry.value_cutTo n), hentries]
  | false => rw [list_named hfilter, list_named hfilter, hentries]

/-- Packages that differ in the amount differ in the value of their entries. -/
theorem entry_eq_of_value_eq {packages : List PackageUse}
    (h : ((packages.filter (0 < category.amount ·)).map category.amount).Nodup) {p q : PackageUse}
    (hp : p ∈ packages) (hq : q ∈ packages) (hpos : 0 < (category.entry bounds p).value)
    (heq : (category.entry bounds p).value = (category.entry bounds q).value) : p = q := by
  have hamount : category.amount p = category.amount q := by
    rw [← category.value_entry bounds, ← category.value_entry bounds, heq]
  have hnonzero : 0 < category.amount p := by
    rw [← category.value_entry bounds]
    exact UInt64.lt_iff_toNat_lt.mp hpos
  refine List.inj_on_of_nodup_map h ?_ ?_ hamount
  · exact List.mem_filter.mpr ⟨hp, decide_eq_true hnonzero⟩
  · exact List.mem_filter.mpr ⟨hq, decide_eq_true (hamount ▸ hnonzero)⟩

end

end Category

/-- **Order and bounds.** Without a filter a list shows the same values however
the packages of the sample are ordered, and if no two of its packages have the
same non-zero amount it is the same list. With a smaller bound on packages a
list without a filter holds the first of its entries, and with a smaller bound
on processes each entry of any list the first of its processes; nothing else
changes. -/
theorem reordered_lists_agree (category : Category) (time : Timestamp) (sample : Sample)
    (bounds : Bounds) (previous : Option Record) :
    let list (packages : List PackageUse) (bounds : Bounds) (filter : PackageFilter) :=
      category.list (Record.compute time { sample with packages } bounds filter previous).packages
    (∀ packages : List PackageUse, packages.Perm sample.packages →
      (list packages bounds {}).map (·.value) = (list sample.packages bounds {}).map (·.value) ∧
        (((sample.packages.filter (0 < category.amount ·)).map category.amount).Nodup →
          list packages bounds {} = list sample.packages bounds {})) ∧
      (∀ n ≤ bounds.packages,
        list sample.packages { bounds with packages := n } {} =
          (list sample.packages bounds {}).take n) ∧
      ∀ n ≤ bounds.processes, ∀ filter,
        list sample.packages { bounds with processes := n } filter =
          (list sample.packages bounds filter).map (·.cutTo n) := by
  intro list
  have hlist (packages : List PackageUse) (bounds : Bounds) : list packages bounds {} =
      topBy (·.value) bounds.packages (packages.map (category.entry bounds)) :=
    category.list_eq_topBy time _ bounds previous
  refine ⟨fun packages hperm => ⟨?_, fun hdistinct => ?_⟩, fun n hn => ?_, fun n hn filter => ?_⟩
  · have hvalues (packages : List PackageUse) : (list packages bounds {}).map (·.value) =
        topBy id bounds.packages ((packages.map (category.entry bounds)).map (·.value)) := by
      rw [hlist]
      refine map_topBy (fun _ => ?_) _ _
      rfl
    rw [hvalues, hvalues]
    exact topBy_eq_of_perm ((hperm.map _).map _) (fun _ _ _ _ _ heq => heq) bounds.packages
  · rw [hlist, hlist]
    refine (topBy_eq_of_perm (hperm.symm.map _) (fun a ha b hb hpos heq => ?_) _).symm
    obtain ⟨p, hp, rfl⟩ := List.mem_map.mp ha
    obtain ⟨q, hq, rfl⟩ := List.mem_map.mp hb
    rw [category.entry_eq_of_value_eq bounds hdistinct hp hq hpos heq]
  · rw [hlist, hlist, take_topBy hn]
    rfl
  · exact (category.map_cutTo_list time sample bounds previous hn filter).symm

/-- Two packages tie in processor time where only one is listed, so that their
order decides which; their major faults differ, and there it does not matter. -/
theorem reordered_lists_agree_tied :
    let light : PackageUse := { uid := 7, cpuTime := 5, group := { majorFaults := 1 } }
    let heavy : PackageUse := { uid := 9, cpuTime := 5, group := { majorFaults := 2 } }
    let summary (packages : List PackageUse) (limit : Nat) : PackageSummary :=
      (Record.compute .epoch { packages } ⟨limit, 1⟩ {} none).packages
    let faults := Category.majorFaults.amount
    [heavy, light].Perm [light, heavy] ∧ (([light, heavy].filter (0 < faults ·)).map faults).Nodup ∧
      (summary [heavy, light] 1).cpuTimes.map (·.value) =
        (summary [light, heavy] 1).cpuTimes.map (·.value) ∧
      (summary [heavy, light] 1).cpuTimes.map (·.uid) = [9] ∧
      (summary [light, heavy] 1).cpuTimes.map (·.uid) = [7] ∧
      (summary [heavy, light] 1).majorFaults = (summary [light, heavy] 1).majorFaults ∧
      1 ≤ 2 ∧ (summary [light, heavy] 1).cpuTimes = (summary [light, heavy] 2).cpuTimes.take 1 := by
  intro light heavy summary faults
  have horder : [heavy, light].Perm [light, heavy] := .swap ..
  have hdistinct : (([light, heavy].filter (0 < faults ·)).map faults).Nodup := by decide
  let sample : Sample := { packages := [light, heavy] }
  obtain ⟨hcpu, -⟩ := reordered_lists_agree .cpuTime .epoch sample ⟨1, 1⟩ none
  obtain ⟨hfaults, -⟩ := reordered_lists_agree .majorFaults .epoch sample ⟨1, 1⟩ none
  obtain ⟨-, hcut, -⟩ := reordered_lists_agree .cpuTime .epoch sample ⟨2, 1⟩ none
  exact ⟨horder, hdistinct, (hcpu _ horder).1, by cbv, by cbv, (hfaults _ horder).2 hdistinct,
    by decide, hcut 1 (by decide)⟩

end UsageWatch
