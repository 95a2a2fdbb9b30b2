import UsageWatch.Proofs.CollectionHistory
/-!
# What expires

A sweep looks at the oldest records only and stops at the first that is still
within the retention. So it removes every expired record exactly if none stands
behind one that is not (`sweep_complete_iff`), and the records of a clock that
never ran backwards are always in such an order. After a step back of the clock
an expired record stays (`sweep_incomplete`).
-/

namespace UsageWatch

namespace Collection

variable {c : Collection} {retention : Duration}

/-- Behind a record that is within the retention all are. -/
def ExpiresInOrder (c : Collection) (retention : Duration) (now : Timestamp) : Prop :=
  c.records.Pairwise fun older newer =>
    older.isWithin retention now = true → newer.isWithin retention now = true

theorem expiresInOrder_of_sorted (h : c.records.Pairwise fun a b => a.time ≤ b.time)
    (now : Timestamp) : c.ExpiresInOrder retention now := h.imp Record.isWithin_of_le

theorem forall_isWithin_iff (h : c.policy = .window retention) (now : Timestamp) :
    (∀ r ∈ (c.sweep now).records, r.isWithin retention now = true) ↔
      c.ExpiresInOrder retention now := by
  have hswept : (c.sweep now).records = c.records.dropWhile (!·.isWithin retention now) := by
    rw [records_sweep h, recent_eq_dropWhile]
  have hprefix := forall_dropWhile_iff (p := (!·.isWithin retention now)) (l := c.records)
  rw [hswept]
  simp only [Bool.not_eq_false', Bool.not_eq_true'] at hprefix
  refine hprefix.trans (List.Pairwise.iff fun {older newer} => ?_)
  cases older.isWithin retention now <;> cases newer.isWithin retention now <;> simp

end Collection

/-- **Expiry.** Whatever was done to a window before, a sweep at `now` and an
append at `now` leave the same of the records held so far: all from the first on
that is within the retention. None of them is expired exactly if the records
expire in order, as they do if they were appended in the order of their times. -/
theorem sweep_complete_iff (retention : Duration) (changes : List CollectionChange)
    (now : Timestamp) :
    let c := Collection.run { policy := .window retention } changes
    (c.sweep now).records = c.records.dropWhile (!·.isWithin retention now) ∧
      (∀ r, (c.append r now).records = (c.sweep now).records ++ [r]) ∧
      ((∀ r ∈ (c.sweep now).records, r.isWithin retention now = true) ↔
        c.ExpiresInOrder retention now) ∧
      ((CollectionChange.appended changes).Pairwise (fun a b => a.time ≤ b.time) →
        ∀ r ∈ (c.sweep now).records, r.isWithin retention now = true) := by
  intro c
  have hpolicy : c.policy = .window retention := Collection.policy_run _ changes
  have hiff := Collection.forall_isWithin_iff hpolicy now
  refine ⟨?_, fun r => ?_, hiff, fun hsorted => hiff.mpr ?_⟩
  · rw [Collection.records_sweep hpolicy, Collection.recent_eq_dropWhile]
  · rw [Collection.records_append, Collection.makeRoom_eq_sweep hpolicy]
  · have hsuffix := Collection.records_run_suffix (.window retention) changes
    exact Collection.expiresInOrder_of_sorted (hsorted.sublist hsuffix.sublist) now

/-- Of two records in order the older one expires first, and a sweep then removes it. -/
theorem sweep_complete_iff_sorted :
    let minute : Timestamp := ⟨60000000000, by decide, by decide⟩
    let now : Timestamp := ⟨3601000000000, by decide, by decide⟩
    let hour := Duration.ofSeconds 3600
    let changes : List CollectionChange :=
      [.append { time := .epoch } .epoch, .append { time := minute } minute]
    let c := Collection.run { policy := .window hour } changes
    (CollectionChange.appended changes).Pairwise (fun a b => a.time ≤ b.time) ∧
      c.expired now = 1 ∧ ∀ r ∈ (c.sweep now).records, r.isWithin hour now = true := by
  intro minute now hour changes c
  have hsorted : (CollectionChange.appended changes).Pairwise fun a b => a.time ≤ b.time := by decide
  exact ⟨hsorted, by decide, (sweep_complete_iff hour changes now).2.2.2 hsorted⟩

/-- The clock steps back by 50 s between two appends. The record of the earlier
time outlives its ten seconds behind the other one. -/
theorem sweep_incomplete :
    let later : Timestamp := ⟨100000000000, by decide, by decide⟩
    let earlier : Timestamp := ⟨50000000000, by decide, by decide⟩
    let now : Timestamp := ⟨105000000000, by decide, by decide⟩
    let retention := Duration.ofSeconds 10
    let c := Collection.run { policy := .window retention }
      [.append { time := later } later, .append { time := earlier } earlier]
    ¬ (∀ r ∈ (c.sweep now).records, r.isWithin retention now = true) ∧
      ¬ (∀ r ∈ (c.makeRoom now).records, r.isWithin retention now = true) := by
  decide

end UsageWatch
