import UsageWatch.Proofs.Collection
import UsageWatch.SessionStore
/-!
# Laws of the session store

An append changes one session, the newest, and may cost some of the oldest
ones their place. Appends, sweeps and clears account for every record that
leaves the store.
-/

namespace UsageWatch.SessionStore

/-! ## The session an append goes to -/

/-- The session that takes a new record for this pair of users. -/
def goal (s : SessionStore) (origin target : Count) : Session :=
  (s.current? origin target).getD (s.emptySession origin target)

def others (s : SessionStore) (origin target : Count) : List Session :=
  match s.current? origin target with
  | some _ => s.sessions.dropLast
  | none => s.sessions.drop s.surplus

theorem sessions_append (s : SessionStore) (origin target : Count) (r : Record) (now : Timestamp) :
    (s.append origin target r now).sessions = s.others origin target ++
      [{ s.goal origin target with
        collection := (s.goal origin target).collection.append r now }] := by
  unfold append others goal
  cases s.current? origin target <;> rfl

theorem sessions_of_current? {s : SessionStore} {origin target : Count} {session : Session}
    (h : s.current? origin target = some session) :
    s.sessions = s.sessions.dropLast ++ [session] := by
  unfold current? at h
  rw [Option.filter_eq_some_iff] at h
  obtain ⟨older, hsessions⟩ := List.getLast?_eq_some_iff.mp h.1
  rw [hsessions, List.dropLast_concat]

theorem others_sublist (s : SessionStore) (origin target : Count) :
    (s.others origin target).Sublist s.sessions := by
  unfold others; split
  · exact List.dropLast_sublist _
  · exact List.drop_sublist _ _

theorem mem_others {s : SessionStore} {origin target : Count} {session : Session}
    (h : session ∈ s.others origin target) : session ∈ s.sessions :=
  (s.others_sublist origin target).subset h

theorem goal_mem_or_empty (s : SessionStore) (origin target : Count) :
    s.goal origin target ∈ s.sessions ∨
      s.goal origin target = s.emptySession origin target := by
  unfold goal
  cases h : s.current? origin target with
  | none => exact .inr rfl
  | some session =>
    left
    rw [sessions_of_current? h]
    exact List.mem_append_right _ (List.mem_singleton_self _)

/-- What a new record follows is the newest record of the session it goes to. -/
theorem previous?_eq (s : SessionStore) (origin target : Count) :
    s.previous? origin target = (s.goal origin target).collection.last? := by
  unfold previous? goal
  cases s.current? origin target <;> rfl

theorem opened_iff (s : SessionStore) (origin target : Count) (now : Timestamp) :
    (s.appendOutcome origin target now).opened = true ↔ s.current? origin target = none := by
  unfold appendOutcome
  cases s.current? origin target <;> simp

/-! ## The newest session after an append -/

theorem isFor_goal (s : SessionStore) (origin target : Count) :
    (s.goal origin target).isFor origin target = true := by
  unfold goal
  cases h : s.current? origin target with
  | none => simp [emptySession, Session.isFor]
  | some session =>
    unfold current? at h
    rw [Option.filter_eq_some_iff] at h
    exact h.2

theorem current?_append (s : SessionStore) (origin target : Count) (r : Record) (now : Timestamp) :
    (s.append origin target r now).current? origin target =
      some { s.goal origin target with
        collection := (s.goal origin target).collection.append r now } := by
  rw [current?, sessions_append, List.getLast?_concat]
  exact Option.filter_some_pos (s.isFor_goal origin target)

@[simp] theorem previous?_append (s : SessionStore) (origin target : Count) (r : Record)
    (now : Timestamp) : (s.append origin target r now).previous? origin target = some r := by
  rw [previous?, current?_append, Option.bind_some, Collection.last?_append]

/-! ## Sweeps -/

theorem mem_sessions_sweep {s : SessionStore} {now : Timestamp} {session : Session}
    (h : session ∈ (s.sweep now).sessions) :
    ∃ old ∈ s.sessions, session = { old with collection := old.collection.sweep now } := by
  obtain ⟨hmap, _⟩ := List.mem_filter.mp h
  obtain ⟨old, hold, rfl⟩ := List.mem_map.mp hmap
  exact ⟨old, hold, rfl⟩

/-! ## Accounts -/

theorem tally_cons (figure : Session → Nat) (session : Session) (rest : List Session) :
    tally figure (session :: rest) = figure session + tally figure rest := rfl

theorem tally_append (figure : Session → Nat) (b : List Session) : ∀ a : List Session,
    tally figure (a ++ b) = tally figure a + tally figure b
  | [] => (Nat.zero_add _).symm
  | session :: a => by
    rw [List.cons_append, tally_cons, tally_append figure b a, tally_cons, Nat.add_assoc]

theorem countRecords_append (a b : List Session) :
    countRecords (a ++ b) = countRecords a + countRecords b := tally_append _ b a

theorem countRecords_cons (a : Session) (b : List Session) :
    countRecords (a :: b) = a.collection.size + countRecords b := rfl

theorem countRecords_singleton (a : Session) : countRecords [a] = a.collection.size := rfl

theorem countRecords_filter_nonempty : ∀ sessions : List Session,
    countRecords (sessions.filter (!·.collection.isEmpty)) = countRecords sessions
  | [] => rfl
  | session :: rest => by
    have ih := countRecords_filter_nonempty rest
    cases h : session.collection.isEmpty with
    | true =>
      have hsize : session.collection.size = 0 := by
        rw [Collection.isEmpty, List.isEmpty_iff] at h
        rw [Collection.size, h, List.length_nil]
      rw [List.filter_cons_of_neg (by simp [h]), ih, countRecords_cons, hsize, Nat.zero_add]
    | false =>
      rw [List.filter_cons_of_pos (by simp [h]), countRecords_cons, ih, countRecords_cons]

theorem countRecords_sweep (now : Timestamp) : ∀ sessions : List Session,
    countRecords (sessions.map fun session =>
        { session with collection := session.collection.sweep now }) +
      tally (·.collection.expired now) sessions = countRecords sessions
  | [] => rfl
  | session :: rest => by
    have ih := countRecords_sweep now rest
    have h := session.collection.size_sweep_add_expired now
    simp only [List.map_cons, tally_cons, countRecords_cons]
    omega

theorem recordCount_sweep_add_expired (s : SessionStore) (now : Timestamp) :
    (s.sweep now).recordCount + s.expired now = s.recordCount := by
  unfold recordCount sweep expired
  rw [countRecords_filter_nonempty]
  exact countRecords_sweep now s.sessions

theorem recordCount_append_add_displaced (s : SessionStore) (origin target : Count) (r : Record)
    (now : Timestamp) :
    (s.append origin target r now).recordCount +
      ((s.appendOutcome origin target now).displaced +
        (s.appendOutcome origin target now).displacedWithSessions) = s.recordCount + 1 := by
  unfold recordCount appendOutcome
  rw [sessions_append, countRecords_append, countRecords_singleton]
  unfold others goal
  cases h : s.current? origin target with
  | none =>
    have hsplit := countRecords_append (s.sessions.take s.surplus) (s.sessions.drop s.surplus)
    rw [List.take_append_drop] at hsplit
    have hempty : (s.emptySession origin target).collection.size = 0 := rfl
    have hle := (s.emptySession origin target).collection.displaced_le_size now
    have happ := (s.emptySession origin target).collection.size_append_add_displaced r now
    simp only [Option.getD_none]
    omega
  | some session =>
    have hsplit := congrArg countRecords (sessions_of_current? h)
    rw [countRecords_append, countRecords_singleton] at hsplit
    have happ := session.collection.size_append_add_displaced r now
    simp only [Option.getD_some]
    omega

theorem previous?_eq_none_of_recordCount {s : SessionStore} (h : s.recordCount = 0)
    (origin target : Count) : s.previous? origin target = none := by
  unfold previous?
  cases hcurrent : s.current? origin target with
  | none => rfl
  | some session =>
    have hsplit := congrArg countRecords (sessions_of_current? hcurrent)
    rw [countRecords_append, countRecords_singleton] at hsplit
    unfold recordCount at h
    exact Collection.last?_eq_none (by omega)

@[simp] theorem recordCount_clear (s : SessionStore) : s.clear.recordCount = 0 := rfl

end UsageWatch.SessionStore
