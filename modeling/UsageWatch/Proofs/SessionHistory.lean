import UsageWatch.Proofs.SessionStore
/-!
# The session store over its history

A store with room for at least one session never holds more sessions than it
has room for, and none without records, whatever the order of appends, sweeps
and clears and of the times they come with (`session_store_sound`). So an
append always falls into one of three cases: it goes on with the newest
session, it opens one, or it opens one in the place of the oldest.
-/

namespace UsageWatch

inductive StoreChange where
  | append (origin target : Count) (r : Record) (now : Timestamp)
  | sweep (now : Timestamp)
  | clear

def StoreChange.isAppend : StoreChange → Bool
  | append .. => true
  | _ => false

def Session.users (session : Session) : Count × Count := (session.origin, session.target)

theorem Session.isFor_iff (session : Session) (origin target : Count) :
    session.isFor origin target = true ↔ session.users = (origin, target) := by
  simp [isFor, users]

namespace SessionStore

def apply (s : SessionStore) : StoreChange → SessionStore
  | .append origin target r now => s.append origin target r now
  | .sweep now => s.sweep now
  | .clear => s.clear

def reported (s : SessionStore) : StoreChange → Nat
  | .append origin target _ now =>
    (s.appendOutcome origin target now).displaced +
      (s.appendOutcome origin target now).displacedWithSessions
  | .sweep now => s.expired now
  | .clear => s.recordCount

def run (s : SessionStore) (changes : List StoreChange) : SessionStore := changes.foldl apply s

def reportedIn : SessionStore → List StoreChange → Nat
  | _, [] => 0
  | s, change :: changes => s.reported change + (s.apply change).reportedIn changes

def newestUsers? (s : SessionStore) : Option (Count × Count) := s.sessions.getLast?.map Session.users

/-! ## The session that an append goes on with -/

variable {s : SessionStore} {origin target : Count}

theorem newestUsers?_eq_some_iff : s.newestUsers? = some (origin, target) ↔
    ∃ newest, s.current? origin target = some newest := by
  simp only [newestUsers?, current?, Option.map_eq_some_iff, Option.filter_eq_some_iff,
    Session.isFor_iff]

theorem newestUsers?_ne_some_iff : s.newestUsers? ≠ some (origin, target) ↔
    s.current? origin target = none := by
  rw [Ne, newestUsers?_eq_some_iff, ← Option.isSome_iff_exists, Option.not_isSome_iff_eq_none]

theorem users_of_current? {newest : Session} (h : s.current? origin target = some newest) :
    newest.users = (origin, target) := by
  rw [current?, Option.filter_eq_some_iff] at h
  exact (newest.isFor_iff origin target).mp h.2

/-! ## Well-formed stores -/

structure WellFormed (s : SessionStore) : Prop where
  capacity_pos : 1 ≤ s.capacity
  size_le : s.size ≤ s.capacity
  policy_eq : ∀ session ∈ s.sessions, session.collection.policy = .window s.retention
  nonempty : ∀ session ∈ s.sessions, session.collection.isEmpty = false

theorem wellFormed_of_sessions_nil (hcapacity : 1 ≤ s.capacity) (h : s.sessions = []) :
    s.WellFormed where
  capacity_pos := hcapacity
  size_le := by simp [size, h]
  policy_eq := by simp [h]
  nonempty := by simp [h]

@[simp] theorem capacity_apply (s : SessionStore) (change : StoreChange) :
    (s.apply change).capacity = s.capacity := by
  cases change with
  | append => simp only [apply, append]; split <;> rfl
  | sweep | clear => rfl

@[simp] theorem retention_apply (s : SessionStore) (change : StoreChange) :
    (s.apply change).retention = s.retention := by
  cases change with
  | append => simp only [apply, append]; split <;> rfl
  | sweep | clear => rfl

theorem capacity_run (s : SessionStore) (changes : List StoreChange) :
    (s.run changes).capacity = s.capacity :=
  List.foldlRecOn (motive := fun t : SessionStore => t.capacity = s.capacity) changes apply rfl
    fun t ht change _ => (t.capacity_apply change).trans ht

theorem retention_run (s : SessionStore) (changes : List StoreChange) :
    (s.run changes).retention = s.retention :=
  List.foldlRecOn (motive := fun t : SessionStore => t.retention = s.retention) changes apply rfl
    fun t ht change _ => (t.retention_apply change).trans ht

structure Populated (s : SessionStore) : Prop where
  policy_eq : ∀ session ∈ s.sessions, session.collection.policy = .window s.retention
  nonempty : ∀ session ∈ s.sessions, session.collection.isEmpty = false

namespace Populated

theorem policy_goal (h : s.Populated) (origin target : Count) :
    (s.goal origin target).collection.policy = .window s.retention := by
  rcases s.goal_mem_or_empty origin target with hmem | hempty
  · exact h.policy_eq _ hmem
  · rw [hempty, emptySession]

theorem append (h : s.Populated) (origin target : Count) (r : Record) (now : Timestamp) :
    (s.append origin target r now).Populated := by
  have hretention := s.retention_apply (.append origin target r now)
  constructor
  · intro session hsession
    rw [sessions_append, List.mem_append, List.mem_singleton] at hsession
    refine Eq.trans ?_ (congrArg EvictionPolicy.window hretention.symm)
    rcases hsession with hother | rfl
    · exact h.policy_eq session (mem_others hother)
    · exact (Collection.policy_append _ r now).trans (h.policy_goal origin target)
  · intro session hsession
    rw [sessions_append, List.mem_append, List.mem_singleton] at hsession
    rcases hsession with hother | rfl
    · exact h.nonempty session (mem_others hother)
    · simp [Collection.isEmpty, Collection.records_append]

theorem sweep (h : s.Populated) (now : Timestamp) : (s.sweep now).Populated where
  policy_eq := by
    intro session hsession
    obtain ⟨old, hold, rfl⟩ := mem_sessions_sweep hsession
    exact (Collection.policy_sweep _ now).trans (h.policy_eq old hold)
  nonempty := by
    intro session hsession
    simpa using (List.mem_filter.mp hsession).2

theorem apply (h : s.Populated) (change : StoreChange) : (s.apply change).Populated := by
  cases change with
  | append origin target r now => exact h.append origin target r now
  | sweep now => exact h.sweep now
  | clear => exact ⟨by simp [SessionStore.apply, clear], by simp [SessionStore.apply, clear]⟩

end Populated

namespace WellFormed

theorem length_others_lt (h : s.WellFormed) (origin target : Count) :
    (s.others origin target).length < s.capacity := by
  have hsize : s.sessions.length ≤ s.capacity := h.size_le
  have hcapacity := h.capacity_pos
  unfold others
  cases hcurrent : s.current? origin target with
  | none =>
    simp only [List.length_drop, surplus]
    omega
  | some session =>
    have hlength := congrArg List.length (sessions_of_current? hcurrent)
    rw [List.length_append, List.length_singleton] at hlength
    show s.sessions.dropLast.length < s.capacity
    omega

theorem populated (h : s.WellFormed) : s.Populated := ⟨h.policy_eq, h.nonempty⟩

theorem size_apply_le (h : s.WellFormed) (change : StoreChange) :
    (s.apply change).size ≤ s.capacity := by
  cases change with
  | append origin target r now =>
    rw [apply, size, sessions_append, List.length_append, List.length_singleton]
    exact h.length_others_lt origin target
  | sweep now =>
    have hlength := List.length_filter_le (!·.collection.isEmpty)
      (s.sessions.map fun session => { session with collection := session.collection.sweep now })
    rw [List.length_map] at hlength
    exact Nat.le_trans hlength h.size_le
  | clear => exact Nat.zero_le _

theorem apply (h : s.WellFormed) (change : StoreChange) : (s.apply change).WellFormed where
  capacity_pos := (s.capacity_apply change).symm ▸ h.capacity_pos
  size_le := (s.capacity_apply change).symm ▸ h.size_apply_le change
  policy_eq := (h.populated.apply change).policy_eq
  nonempty := (h.populated.apply change).nonempty

theorem run (h : s.WellFormed) (changes : List StoreChange) : (s.run changes).WellFormed :=
  List.foldlRecOn changes SessionStore.apply h fun _ ht change _ => ht.apply change

end WellFormed

/-! ## Appends to well-formed stores -/

def sessionOf (s : SessionStore) (origin target : Count) (records : List Record) : Session :=
  ⟨origin, target, { policy := .window s.retention, records }⟩

structure Appends (s : SessionStore) (origin target : Count) (r : Record) (now : Timestamp)
    (sessions : List Session) (outcome : SessionAppend) (previous : Option Record) : Prop where
  sessions_eq : (s.append origin target r now).sessions = sessions
  outcome_eq : s.appendOutcome origin target now = outcome
  previous_eq : s.previous? origin target = previous

structure AppendLaws (s : SessionStore) (origin target : Count) (r : Record) (now : Timestamp) :
    Prop where
  /-- For the users of the newest session, that session gives up its expired
  records and takes the new one. -/
  continued : s.newestUsers? = some (origin, target) → ∃ older newest gone kept prior,
    s.sessions = older ++ [newest] ∧ newest.collection.records = gone ++ kept ∧
      kept = Collection.recent s.retention now newest.collection.records ∧
      newest.collection.records.getLast? = some prior ∧
      s.Appends origin target r now (older ++ [s.sessionOf origin target (kept ++ [r])])
        ⟨gone.length, 0, false, false⟩ (some prior)
  /-- For other users a session opens where there is room. -/
  opened : s.newestUsers? ≠ some (origin, target) → s.size < s.capacity →
    s.Appends origin target r now (s.sessions ++ [s.sessionOf origin target [r]])
      ⟨0, 0, false, true⟩ none
  /-- In a full store it takes the place of the oldest session. -/
  replaced : s.newestUsers? ≠ some (origin, target) → s.size = s.capacity →
    ∃ oldest rest, s.sessions = oldest :: rest ∧
      s.Appends origin target r now (rest ++ [s.sessionOf origin target [r]])
        ⟨0, oldest.collection.records.length, true, true⟩ none
  previous_iff : (s.previous? origin target).isSome = true ↔
    (s.appendOutcome origin target now).opened = false

/-- An append for users that are not those of the newest session. -/
theorem appends_of_none (h : s.current? origin target = none) (r : Record) (now : Timestamp) :
    s.Appends origin target r now (s.sessions.drop s.surplus ++ [s.sessionOf origin target [r]])
      ⟨0, countRecords (s.sessions.take s.surplus), decide (0 < s.surplus), true⟩ none where
  sessions_eq := by
    have hnone : Collection.recent s.retention now [] = [] :=
      List.suffix_nil.mp (Collection.recent_suffix s.retention now [])
    simp [append, h, sessionOf, emptySession, Collection.append, Collection.makeRoom,
      Collection.sweep, hnone]
  outcome_eq := by rw [appendOutcome, h]
  previous_eq := by rw [previous?, h, Option.bind_none]

namespace WellFormed

theorem appends_of_some (h : s.WellFormed) {newest : Session}
    (hcurrent : s.current? origin target = some newest) (r : Record) (now : Timestamp) :
    ∃ older gone kept prior,
      s.sessions = older ++ [newest] ∧ newest.collection.records = gone ++ kept ∧
        kept = Collection.recent s.retention now newest.collection.records ∧
        newest.collection.records.getLast? = some prior ∧
        s.Appends origin target r now (older ++ [s.sessionOf origin target (kept ++ [r])])
          ⟨gone.length, 0, false, false⟩ (some prior) := by
  have hsessions := sessions_of_current? hcurrent
  have husers := users_of_current? hcurrent
  have hmem : newest ∈ s.sessions := by rw [hsessions]; simp
  have hpolicy := h.policy_eq newest hmem
  obtain ⟨gone, hgone⟩ := Collection.recent_suffix s.retention now newest.collection.records
  -- The sweep on the way may empty the session; the record to follow is read before it.
  obtain ⟨prior, hprior⟩ : ∃ prior, newest.collection.records.getLast? = some prior := by
    rw [← Option.isSome_iff_exists, List.getLast?_isSome]
    simpa [Collection.isEmpty] using h.nonempty newest hmem
  have hlength := congrArg List.length hgone
  rw [List.length_append] at hlength
  obtain ⟨_, _, policy, records⟩ := newest
  cases husers
  obtain rfl : policy = .window s.retention := hpolicy
  refine ⟨_, gone, _, prior, hsessions, hgone.symm, rfl, hprior, ?_, ?_, ?_⟩
  · simp [SessionStore.append, hcurrent, sessionOf, Collection.append, Collection.makeRoom,
      Collection.sweep]
  · simp only [appendOutcome, hcurrent, Collection.displaced, Collection.makeRoom, Collection.sweep,
      Collection.size, SessionAppend.mk.injEq, and_true]
    exact Nat.sub_eq_of_eq_add hlength.symm
  · rw [previous?, hcurrent]
    exact hprior

theorem surplus_eq (h : s.WellFormed) : s.surplus = if s.size = s.capacity then 1 else 0 := by
  have hcapacity := h.capacity_pos
  have hsize := h.size_le
  unfold size at *
  unfold surplus
  split <;> omega

theorem appendLaws (h : s.WellFormed) (origin target : Count) (r : Record) (now : Timestamp) :
    s.AppendLaws origin target r now where
  continued husers := by
    obtain ⟨newest, hcurrent⟩ := newestUsers?_eq_some_iff.mp husers
    obtain ⟨older, hlaws⟩ := h.appends_of_some hcurrent r now
    exact ⟨older, newest, hlaws⟩
  opened hother hroom := by
    have happends := appends_of_none (newestUsers?_ne_some_iff.mp hother) r now
    rw [h.surplus_eq, if_neg (Nat.ne_of_lt hroom)] at happends
    exact happends
  replaced hother hfull := by
    have happends := appends_of_none (newestUsers?_ne_some_iff.mp hother) r now
    rw [h.surplus_eq, if_pos hfull] at happends
    cases hsessions : s.sessions with
    | nil =>
      have hcapacity := h.capacity_pos
      rw [← hfull, size, hsessions] at hcapacity
      cases hcapacity
    | cons oldest rest =>
      rw [hsessions] at happends
      exact ⟨oldest, rest, rfl, happends⟩
  previous_iff := by
    cases hcurrent : s.current? origin target with
    | none =>
      have happends := appends_of_none hcurrent r now
      rw [happends.previous_eq, happends.outcome_eq]
      simp
    | some newest =>
      obtain ⟨_, _, _, prior, _, _, _, _, happends⟩ := h.appends_of_some hcurrent r now
      rw [happends.previous_eq, happends.outcome_eq]
      simp

end WellFormed

/-! ## Accounts -/

theorem recordCount_apply_add_reported (s : SessionStore) (change : StoreChange) :
    (s.apply change).recordCount + s.reported change = s.recordCount + change.isAppend.toNat := by
  cases change with
  | append origin target r now => exact s.recordCount_append_add_displaced origin target r now
  | sweep now => exact s.recordCount_sweep_add_expired now
  | clear => simp [apply, reported, StoreChange.isAppend]

theorem recordCount_run_add_reportedIn (changes : List StoreChange) : ∀ s : SessionStore,
    (s.run changes).recordCount + s.reportedIn changes =
      s.recordCount + changes.countP (·.isAppend) :=
  account_foldl (fun _ => rfl) (fun _ _ _ => rfl) recordCount_apply_add_reported changes

end SessionStore

/-- **Sessions.** After any changes a store holds no more sessions than it has
room for and none without records, its next append obeys the laws of appends,
and the records that were ever appended are those it holds and those reported
as dropped. -/
theorem session_store_sound (capacity : Nat) (hcapacity : 1 ≤ capacity) (retention : Duration)
    (changes : List StoreChange) :
    let empty : SessionStore := { capacity, retention }
    let s := empty.run changes
    s.capacity = capacity ∧ s.retention = retention ∧
      s.size ≤ capacity ∧ (∀ session ∈ s.sessions, session.collection.records ≠ []) ∧
      (∀ origin target r now, s.AppendLaws origin target r now) ∧
      changes.countP (·.isAppend) = s.recordCount + empty.reportedIn changes := by
  intro empty s
  have hwellFormed : s.WellFormed :=
    (SessionStore.wellFormed_of_sessions_nil (s := empty) hcapacity rfl).run changes
  have hroom : s.capacity = capacity := SessionStore.capacity_run empty changes
  have hretention : s.retention = retention := SessionStore.retention_run empty changes
  have hcount : s.recordCount + empty.reportedIn changes = 0 + changes.countP (·.isAppend) :=
    SessionStore.recordCount_run_add_reportedIn changes empty
  refine ⟨hroom, hretention, hroom ▸ hwellFormed.size_le, ?_, hwellFormed.appendLaws, ?_⟩
  · intro session hsession
    simpa [Collection.isEmpty] using hwellFormed.nonempty session hsession
  · omega

/-- With room for one session, switching back takes the place of the first switch. -/
theorem session_store_sound_replaced :
    let empty : SessionStore := { capacity := 1, retention := .ofSeconds 10 }
    let r : Record := default
    let s := empty.run [.append 0 10 r .epoch]
    1 ≤ empty.capacity ∧ s.newestUsers? ≠ some (10, 0) ∧ s.size = s.capacity ∧
      s.Appends 10 0 r .epoch [s.sessionOf 10 0 [r]] ⟨0, 1, true, true⟩ none := by
  intro empty r s
  have hcapacity : 1 ≤ empty.capacity := by decide
  have hother : s.newestUsers? ≠ some (10, 0) := by decide
  obtain ⟨_, _, _, _, hlaws, _⟩ :=
    session_store_sound 1 hcapacity (.ofSeconds 10) [.append 0 10 r .epoch]
  obtain ⟨oldest, rest, hsessions, happends⟩ := (hlaws 10 0 r .epoch).replaced hother rfl
  cases hsessions
  exact ⟨hcapacity, hother, rfl, happends⟩

end UsageWatch
