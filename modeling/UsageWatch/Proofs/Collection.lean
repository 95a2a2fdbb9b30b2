import UsageWatch.Collection
/-!
# Laws of collections

Eviction only ever takes records from the old end, so what is left of a
collection is a suffix of what it held. An append and a sweep account for
every record that they drop. A window gives up the expired records that no
younger one stands in front of; with records in the order of their times these
are all the expired ones.
-/

namespace UsageWatch

namespace Collection

/-! ## Policies -/

@[simp] theorem policy_sweep (c : Collection) (now : Timestamp) : (c.sweep now).policy = c.policy := by
  unfold sweep; split <;> rfl

@[simp] theorem policy_makeRoom (c : Collection) (now : Timestamp) :
    (c.makeRoom now).policy = c.policy := by
  unfold makeRoom; split
  · rfl
  · exact policy_sweep c now
  · rfl

@[simp] theorem policy_append (c : Collection) (r : Record) (now : Timestamp) :
    (c.append r now).policy = c.policy := policy_makeRoom c now

/-! ## What is left -/

theorem recent_suffix (retention : Duration) (now : Timestamp) (records : List Record) :
    recent retention now records <:+ records := by
  unfold recent; split
  · exact List.dropWhile_suffix _
  · exact List.suffix_refl _

theorem sweep_suffix (c : Collection) (now : Timestamp) : (c.sweep now).records <:+ c.records := by
  unfold sweep; split
  · exact recent_suffix _ now _
  · exact List.suffix_refl _

theorem makeRoom_suffix (c : Collection) (now : Timestamp) :
    (c.makeRoom now).records <:+ c.records := by
  unfold makeRoom; split
  · exact List.drop_suffix _ _
  · exact sweep_suffix c now
  · exact List.suffix_refl _

/-- What leaves from the old end leaves the newest record, if it leaves any. -/
theorem last?_of_suffix {c c' : Collection} {r : Record} (hsuffix : c'.records <:+ c.records)
    (h : c'.last? = some r) : c.last? = some r := by
  obtain ⟨gone, hgone⟩ := hsuffix
  unfold last? at h ⊢
  rw [← hgone, List.getLast?_append, h, Option.some_or]

theorem makeRoom_eq_sweep {c : Collection} {retention : Duration} (h : c.policy = .window retention)
    (now : Timestamp) : c.makeRoom now = c.sweep now := by
  unfold makeRoom
  rw [h]

theorem sweep_of_window {c : Collection} {retention : Duration} (h : c.policy = .window retention)
    (now : Timestamp) : c.sweep now = { c with records := recent retention now c.records } := by
  unfold sweep
  rw [h]

theorem records_sweep {c : Collection} {retention : Duration} (h : c.policy = .window retention)
    (now : Timestamp) : (c.sweep now).records = recent retention now c.records :=
  congrArg records (sweep_of_window h now)

theorem records_append (c : Collection) (r : Record) (now : Timestamp) :
    (c.append r now).records = (c.makeRoom now).records ++ [r] := rfl

@[simp] theorem records_clear (c : Collection) : c.clear.records = [] := rfl

@[simp] theorem last?_append (c : Collection) (r : Record) (now : Timestamp) :
    (c.append r now).last? = some r := by
  rw [last?, records_append, List.getLast?_concat]

theorem last?_eq_none {c : Collection} (h : c.size = 0) : c.last? = none := by
  rw [last?, List.length_eq_zero_iff.mp h, List.getLast?_nil]

/-! ## Accounts -/

theorem size_sweep_add_expired (c : Collection) (now : Timestamp) :
    (c.sweep now).size + c.expired now = c.size := by
  have h : (c.sweep now).size ≤ c.size := (sweep_suffix c now).length_le
  unfold expired; omega

theorem size_append_add_displaced (c : Collection) (r : Record) (now : Timestamp) :
    (c.append r now).size + c.displaced now = c.size + 1 := by
  have h : (c.makeRoom now).size ≤ c.size := (makeRoom_suffix c now).length_le
  have happ : (c.append r now).size = (c.makeRoom now).size + 1 := by
    simp only [size, records_append, List.length_append, List.length_singleton]
  rw [happ]; unfold displaced; omega

theorem displaced_le_size (c : Collection) (now : Timestamp) : c.displaced now ≤ c.size :=
  Nat.sub_le _ _

@[simp] theorem size_clear (c : Collection) : c.clear.size = 0 := rfl

end Collection

/-- If every step accounts for what it adds and drops, so does a run. -/
theorem account_foldl {σ χ : Type} {apply : σ → χ → σ} {held : σ → Nat} {dropped : σ → χ → Nat}
    {droppedIn : σ → List χ → Nat} {adds : χ → Bool} (hnil : ∀ s, droppedIn s [] = 0)
    (hcons : ∀ s x xs, droppedIn s (x :: xs) = dropped s x + droppedIn (apply s x) xs)
    (hstep : ∀ s x, held (apply s x) + dropped s x = held s + (adds x).toNat) (xs : List χ) :
    ∀ s, held (xs.foldl apply s) + droppedIn s xs = held s + xs.countP adds := by
  induction xs with
  | nil => exact fun s => congrArg (held s + ·) (hnil s)
  | cons x xs ih =>
    intro s
    have hfirst := hstep s x
    have hrest := ih (apply s x)
    have hcount : (x :: xs).countP adds = xs.countP adds + (adds x).toNat := by
      rw [List.countP_cons]
      cases adds x <;> rfl
    rw [List.foldl_cons, hcons, hcount]
    omega

/-! ## Aging out -/

theorem Timestamp.earlier?_eq_some {t cutoff : Timestamp} {d : Duration}
    (h : t.earlier? d = some cutoff) : cutoff.nanos = t.nanos - d := by
  unfold earlier? ofNanos? at h
  split at h
  · cases h
    rfl
  · cases h

/-- Only below the range can the start of a window leave it. -/
theorem Timestamp.lt_of_earlier?_eq_none {t : Timestamp} {d : Duration} (h : t.earlier? d = none)
    (s : Timestamp) : t.nanos - d < s.nanos := by
  unfold earlier? ofNanos? at h
  split at h
  · cases h
  · have hlower := s.lower
    have hupper := t.upper
    omega

/-- The record is no older than the retention at `now`; at the very boundary it is not. -/
def Record.isWithin (retention : Duration) (now : Timestamp) (r : Record) : Bool :=
  decide (now.nanos - retention ≤ r.time.nanos)

theorem Record.isWithin_mono {retention : Duration} {t now : Timestamp} (h : t ≤ now) {r : Record}
    (hr : r.isWithin retention now = true) : r.isWithin retention t = true := by
  simp only [isWithin, decide_eq_true_eq, Timestamp.le_iff] at h hr ⊢
  omega

theorem Record.isWithin_of_le {retention : Duration} {now : Timestamp} {older newer : Record}
    (h : older.time ≤ newer.time) (holder : older.isWithin retention now = true) :
    newer.isWithin retention now = true := by
  simp only [isWithin, decide_eq_true_eq, Timestamp.le_iff] at h holder ⊢
  omega

/-- What is left once a prefix has gone has nothing of its kind exactly if the
prefix was all there was. -/
theorem forall_dropWhile_iff {α : Type} {p : α → Bool} {l : List α} :
    (∀ a ∈ l.dropWhile p, p a = false) ↔ l.Pairwise fun a b => p b = true → p a = true := by
  induction l with
  | nil => simp
  | cons a l ih =>
    cases ha : p a with
    | true => simp [ha, ih]
    | false =>
      rw [List.dropWhile_cons_of_neg (by simp [ha])]
      constructor
      · intro h
        refine List.pairwise_iff_forall_sublist.mpr fun {x y} hpair hy => ?_
        have hnone : p y = false := h y (hpair.subset (by simp))
        rw [hnone] at hy
        cases hy
      · intro h b hb
        rcases List.mem_cons.mp hb with rfl | hb
        · exact ha
        · cases hpb : p b with
          | false => rfl
          | true => exact ((List.pairwise_cons.mp h).1 b hb hpb).symm.trans ha

theorem dropWhile_eq_filter {α : Type} {p : α → Bool} {l : List α}
    (h : l.Pairwise fun a b => p b = true → p a = true) : l.dropWhile p = l.filter (!p ·) := by
  have hgone : (l.takeWhile p).filter (!p ·) = [] := by
    refine List.filter_eq_nil_iff.mpr fun a ha => ?_
    simp [List.all_eq_true.mp List.all_takeWhile a ha]
  have hleft : (l.dropWhile p).filter (!p ·) = l.dropWhile p := by
    refine List.filter_eq_self.mpr fun a ha => ?_
    rw [forall_dropWhile_iff.mpr h a ha, Bool.not_false]
  calc l.dropWhile p = (l.takeWhile p).filter (!p ·) ++ (l.dropWhile p).filter (!p ·) := by
        rw [hgone, hleft, List.nil_append]
    _ = l.filter (!p ·) := by rw [← List.filter_append, List.takeWhile_append_dropWhile]

namespace Collection

variable {retention : Duration} {records : List Record}

/-- Where the start of the window is out of range there is nothing before it. -/
theorem recent_eq_dropWhile (retention : Duration) (now : Timestamp) (records : List Record) :
    recent retention now records = records.dropWhile (!·.isWithin retention now) := by
  unfold recent
  cases hcutoff : now.earlier? retention with
  | none =>
    have hall : ∀ r : Record, r.isWithin retention now = true := fun r => by
      have hlt := Timestamp.lt_of_earlier?_eq_none hcutoff r.time
      simp only [Record.isWithin, decide_eq_true_eq]
      omega
    cases records with
    | nil => rfl
    | cons r records => rw [List.dropWhile_cons_of_neg (by simp [hall])]
  | some cutoff =>
    have hnanos := Timestamp.earlier?_eq_some hcutoff
    have hexpired : (fun r : Record => decide (r.time < cutoff)) = (!·.isWithin retention now) := by
      funext r
      simp only [Record.isWithin, Timestamp.lt_iff, hnanos, ← decide_not, Int.not_le]
    exact congrArg (List.dropWhile · records) hexpired

theorem recent_eq_filter (h : records.Pairwise fun a b => a.time ≤ b.time) (now : Timestamp) :
    recent retention now records = records.filter (·.isWithin retention now) := by
  have hprefix : records.Pairwise fun a b =>
      (!b.isWithin retention now) = true → (!a.isWithin retention now) = true := by
    refine h.imp fun {a b} hab hb => ?_
    cases ha : a.isWithin retention now with
    | false => rfl
    | true => rwa [Record.isWithin_of_le hab ha] at hb
  rw [recent_eq_dropWhile, dropWhile_eq_filter hprefix]
  simp

end Collection

end UsageWatch
