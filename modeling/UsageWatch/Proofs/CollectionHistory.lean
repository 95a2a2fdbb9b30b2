import Mathlib.Data.List.DropRight
import Mathlib.Data.List.Induction
import UsageWatch.Proofs.Collection
/-!
# The collection over its history

Whatever its policy, and whatever the times of the records and of the changes,
a collection holds the end of what was appended to it since it was last cleared
(`collection_sound`). The next change gives up the oldest records only, and
only those that the policy lets go.
-/

namespace UsageWatch

inductive CollectionChange where
  | append (r : Record) (now : Timestamp)
  | sweep (now : Timestamp)
  | clear

namespace CollectionChange

def record? : CollectionChange → Option Record
  | append r _ => some r
  | _ => none

def isAppend (change : CollectionChange) : Bool := change.record?.isSome

def isClear : CollectionChange → Bool
  | clear => true
  | _ => false

/-- The records appended since the last clear, oldest first. -/
def appended (changes : List CollectionChange) : List Record :=
  (changes.rtakeWhile (!·.isClear)).filterMap (·.record?)

theorem appended_concat (changes : List CollectionChange) (change : CollectionChange) :
    appended (changes ++ [change]) =
      if change.isClear then [] else appended changes ++ change.record?.toList := by
  unfold appended
  rw [List.rtakeWhile_concat]
  cases change <;> simp [isClear, record?]

end CollectionChange

namespace Collection

def apply (c : Collection) : CollectionChange → Collection
  | .append r now => c.append r now
  | .sweep now => c.sweep now
  | .clear => c.clear

/-- The number of records that a change reports as dropped. -/
def reported (c : Collection) : CollectionChange → Nat
  | .append _ now => c.displaced now
  | .sweep now => c.expired now
  | .clear => c.size

def run (c : Collection) (changes : List CollectionChange) : Collection := changes.foldl apply c

def reportedIn : Collection → List CollectionChange → Nat
  | _, [] => 0
  | c, change :: changes => c.reported change + (c.apply change).reportedIn changes

theorem run_concat (c : Collection) (changes : List CollectionChange) (change : CollectionChange) :
    c.run (changes ++ [change]) = (c.run changes).apply change := List.foldl_concat ..

@[simp] theorem policy_apply (c : Collection) (change : CollectionChange) :
    (c.apply change).policy = c.policy := by
  cases change with
  | append r now => exact c.policy_append r now
  | sweep now => exact c.policy_sweep now
  | clear => rfl

theorem policy_run (c : Collection) (changes : List CollectionChange) :
    (c.run changes).policy = c.policy :=
  List.foldlRecOn (motive := fun d : Collection => d.policy = c.policy) changes apply rfl
    fun d hd change _ => (d.policy_apply change).trans hd

/-! ## What is held -/

variable {c : Collection} {log : List Record}

theorem records_apply_suffix (h : c.records <:+ log) (change : CollectionChange) :
    (c.apply change).records <:+ if change.isClear then [] else log ++ change.record?.toList := by
  cases change with
  | append r now =>
    obtain ⟨gone, hgone⟩ := (c.makeRoom_suffix now).trans h
    refine ⟨gone, ?_⟩
    rw [apply, records_append, ← List.append_assoc, hgone]
    rfl
  | sweep now =>
    have hswept := (c.sweep_suffix now).trans h
    simpa [apply, CollectionChange.isClear, CollectionChange.record?] using hswept
  | clear => exact List.suffix_refl []

theorem records_run_suffix (policy : EvictionPolicy) (changes : List CollectionChange) :
    (run { policy } changes).records <:+ CollectionChange.appended changes := by
  induction changes using List.reverseRecOn with
  | nil => exact List.suffix_refl []
  | append_singleton changes change ih =>
    rw [run_concat, CollectionChange.appended_concat]
    exact records_apply_suffix ih change

/-- A queue never holds more than its bound, and one record even without any. -/
def IsBounded (c : Collection) : Prop := ∀ size, c.policy = .fifo size → c.size ≤ max 1 size

theorem IsBounded.of_suffix {d : Collection} (h : c.IsBounded) (hpolicy : d.policy = c.policy)
    (hsuffix : d.records <:+ c.records) : d.IsBounded := fun size hsize =>
  hsuffix.length_le.trans (h size (hpolicy.symm.trans hsize))

theorem IsBounded.append (h : c.IsBounded) (r : Record) (now : Timestamp) :
    (c.append r now).IsBounded := by
  intro size hsize
  have hpolicy : c.policy = .fifo size := (c.policy_append r now).symm.trans hsize
  have hbound := h size hpolicy
  simp only [Collection.size, records_append, makeRoom, hpolicy, List.length_append,
    List.length_drop, List.length_singleton] at hbound ⊢
  omega

theorem IsBounded.apply (h : c.IsBounded) (change : CollectionChange) :
    (c.apply change).IsBounded := by
  cases change with
  | append r now => exact h.append r now
  | sweep now => exact h.of_suffix (c.policy_sweep now) (c.sweep_suffix now)
  | clear => exact h.of_suffix rfl (List.nil_suffix ..)

theorem IsBounded.run (h : c.IsBounded) (changes : List CollectionChange) :
    (c.run changes).IsBounded :=
  List.foldlRecOn changes Collection.apply h fun _ hd change _ => hd.apply change

/-! ## What is given up -/

/-- Records that the policy lets go at `now`. A queue gives up one record, and
only if it is full. The start of a window is exact; where it is out of range
nothing goes. -/
def LetsGo (c : Collection) (now : Timestamp) (gone : List Record) : Prop :=
  match c.policy with
  | .fifo size => gone ≠ [] → gone.length = 1 ∧ c.size = max 1 size
  | .window retention =>
    (∀ r ∈ gone, r.time.nanos < now.nanos - retention) ∧ (now.earlier? retention = none → gone = [])
  | .unbounded => gone = []

structure ChangeLaws (c : Collection) : Prop where
  append : ∀ r now, ∃ gone kept, c.records = gone ++ kept ∧ (c.append r now).records = kept ++ [r] ∧
    c.displaced now = gone.length ∧ c.LetsGo now gone
  sweep : ∀ now, ∃ gone kept, c.records = gone ++ kept ∧ (c.sweep now).records = kept ∧
    c.expired now = gone.length ∧ c.LetsGo now gone
  /-- Only windows age. -/
  sweep_eq : (∀ retention, c.policy ≠ .window retention) → ∀ now, c.sweep now = c

theorem letsGo_nil (c : Collection) (now : Timestamp) : c.LetsGo now [] := by
  unfold LetsGo
  split <;> simp

theorem letsGo_recent {retention : Duration} {now : Timestamp} {gone : List Record}
    (hpolicy : c.policy = .window retention)
    (h : gone ++ recent retention now c.records = c.records) : c.LetsGo now gone := by
  have hgone : gone = c.records.takeWhile (!·.isWithin retention now) := by
    refine List.append_cancel_right (h.trans ?_)
    rw [recent_eq_dropWhile, List.takeWhile_append_dropWhile]
  -- `takeWhile` stops at the first record that is kept, so all of `gone` is expired.
  have hexpired : ∀ r ∈ gone, r.time.nanos < now.nanos - retention := by
    intro r hr
    rw [hgone] at hr
    have hout := List.all_eq_true.mp List.all_takeWhile r hr
    rw [Bool.not_eq_true'] at hout
    exact Int.not_le.mp (of_decide_eq_false hout)
  unfold LetsGo
  rw [hpolicy]
  refine ⟨hexpired, fun hnone => List.eq_nil_iff_forall_not_mem.mpr fun r hr => ?_⟩
  have hlt := Timestamp.lt_of_earlier?_eq_none hnone r.time
  have hgt := hexpired r hr
  omega

theorem letsGo_makeRoom (h : c.IsBounded) {now : Timestamp} {gone : List Record}
    (hgone : gone ++ (c.makeRoom now).records = c.records) : c.LetsGo now gone := by
  cases hpolicy : c.policy with
  | fifo size =>
    -- Below its bound a queue drops nothing, so it was full, and no more than full.
    have hbound := h size hpolicy
    have hlength := congrArg List.length hgone
    unfold LetsGo
    simp only [makeRoom, hpolicy, List.length_append, List.length_drop] at hlength ⊢
    intro hne
    have hpos := List.length_pos_iff.mpr hne
    unfold Collection.size at hbound ⊢
    omega
  | window retention =>
    rw [makeRoom_eq_sweep hpolicy, records_sweep hpolicy] at hgone
    exact letsGo_recent hpolicy hgone
  | unbounded =>
    unfold makeRoom at hgone
    rw [hpolicy] at hgone
    unfold LetsGo
    rw [hpolicy]
    exact List.append_left_eq_self.mp hgone

theorem sweep_eq_self (h : ∀ retention, c.policy ≠ .window retention) (now : Timestamp) :
    c.sweep now = c := by
  unfold sweep
  split
  · next retention hpolicy => exact absurd hpolicy (h retention)
  · rfl

theorem IsBounded.changeLaws (h : c.IsBounded) : c.ChangeLaws where
  append r now := by
    obtain ⟨gone, hgone⟩ := c.makeRoom_suffix now
    have hlength := congrArg List.length hgone
    rw [List.length_append] at hlength
    exact ⟨gone, _, hgone.symm, rfl, Nat.sub_eq_of_eq_add hlength.symm, letsGo_makeRoom h hgone⟩
  sweep now := by
    obtain ⟨gone, hgone⟩ := c.sweep_suffix now
    have hlength := congrArg List.length hgone
    rw [List.length_append] at hlength
    refine ⟨gone, _, hgone.symm, rfl, Nat.sub_eq_of_eq_add hlength.symm, ?_⟩
    by_cases hwindow : ∃ retention, c.policy = .window retention
    · obtain ⟨retention, hpolicy⟩ := hwindow
      rw [records_sweep hpolicy] at hgone
      exact letsGo_recent hpolicy hgone
    · rw [sweep_eq_self (not_exists.mp hwindow)] at hgone
      rw [List.append_left_eq_self.mp hgone]
      exact c.letsGo_nil now
  sweep_eq := sweep_eq_self

/-! ## Accounts -/

theorem size_apply_add_reported (c : Collection) (change : CollectionChange) :
    (c.apply change).size + c.reported change = c.size + change.isAppend.toNat := by
  cases change with
  | append r now => exact c.size_append_add_displaced r now
  | sweep now => exact c.size_sweep_add_expired now
  | clear => exact Nat.zero_add _

theorem size_run_add_reportedIn (changes : List CollectionChange) : ∀ c : Collection,
    (c.run changes).size + c.reportedIn changes = c.size + changes.countP (·.isAppend) :=
  account_foldl (fun _ => rfl) (fun _ _ _ => rfl) size_apply_add_reported changes

end Collection

/-- **Collections.** After any changes a collection holds the newest of the
records appended since the last clear, in their order, and no more than its
bound; its next change obeys the laws of changes, and the records that were ever
appended are those it holds and those reported as dropped. -/
theorem collection_sound (policy : EvictionPolicy) (changes : List CollectionChange) :
    let empty : Collection := { policy }
    let c := empty.run changes
    c.policy = policy ∧ c.records <:+ CollectionChange.appended changes ∧
      (∀ size, policy = .fifo size → c.size ≤ max 1 size) ∧ c.ChangeLaws ∧
      changes.countP (·.isAppend) = c.size + empty.reportedIn changes := by
  intro empty c
  have hpolicy : c.policy = policy := Collection.policy_run empty changes
  have hempty : empty.IsBounded := fun _ _ => Nat.zero_le _
  have hbounded : c.IsBounded := hempty.run changes
  have hcount : c.size + empty.reportedIn changes = 0 + changes.countP (·.isAppend) :=
    Collection.size_run_add_reportedIn changes empty
  refine ⟨hpolicy, Collection.records_run_suffix policy changes, ?_, hbounded.changeLaws, ?_⟩
  · exact fun size hsize => hbounded size (hpolicy.trans hsize)
  · omega

/-- A queue for two that is full gives up one record for the next. -/
theorem collection_sound_full :
    let r : Record := default
    let changes : List CollectionChange := [.append r .epoch, .append r .epoch, .sweep .epoch]
    let c := Collection.run { policy := .fifo 2 } changes
    c.size ≤ max 1 2 ∧ changes.countP (·.isAppend) = 2 ∧ c.size = 2 ∧ c.sweep .epoch = c ∧
      ∃ gone kept, c.records = gone ++ kept ∧ (c.append r .epoch).records = kept ++ [r] ∧
        c.displaced .epoch = gone.length ∧ gone.length = 1 := by
  intro r changes c
  obtain ⟨hpolicy, -, hbound, hlaws, hcount⟩ := collection_sound (.fifo 2) changes
  have hqueue : ∀ retention, c.policy ≠ .window retention := by
    intro retention hwindow
    cases hpolicy.symm.trans hwindow
  obtain ⟨gone, kept, hrecords, happend, hdisplaced, -⟩ := hlaws.append r .epoch
  refine ⟨hbound 2 rfl, by decide, by decide, hlaws.sweep_eq hqueue .epoch,
    gone, kept, hrecords, happend, hdisplaced, ?_⟩
  exact hdisplaced.symm.trans (by decide)

end UsageWatch
