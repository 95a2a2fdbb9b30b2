import Mathlib.Data.List.Chain
import Mathlib.Data.List.Flatten
import UsageWatch.Proofs.History
import UsageWatch.Proofs.SessionHistory
/-!
# Sessions in order

An append ages the newest session only, so an older one may hold records that
are older still. With a clock that never runs backwards the records are in order
across sessions all the same. A sweep then empties the oldest sessions, and
those that are left stay neighbours only of sessions of other users
(`sessions_chronological`).
-/

namespace UsageWatch

/-! ## Changes in order -/

namespace StoreChange

def record? : StoreChange → Option Record
  | append _ _ r _ => some r
  | _ => none

def now? : StoreChange → Option Timestamp
  | append _ _ _ now | sweep now => some now
  | clear => none

structure InOrder (changes : List StoreChange) : Prop where
  timely : ∀ origin target r now, append origin target r now ∈ changes → r.time = now
  forward : (changes.filterMap (·.now?)).Pairwise (· ≤ ·)

variable {changes : List StoreChange} {change : StoreChange}

theorem InOrder.of_concat (h : InOrder (changes ++ [change])) : InOrder changes where
  timely origin target r now hmem := h.timely origin target r now (List.mem_append_left _ hmem)
  forward := by
    have hforward := h.forward
    rw [List.filterMap_append] at hforward
    exact (List.pairwise_append.mp hforward).1

theorem InOrder.time_eq (h : InOrder changes) (hmem : change ∈ changes) {r : Record}
    (hr : change.record? = some r) : change.now? = some r.time := by
  cases change with
  | append origin target r' now =>
    cases hr
    exact congrArg some (h.timely origin target r now hmem).symm
  | sweep now => cases hr
  | clear => cases hr

theorem InOrder.sorted (h : InOrder changes) :
    (changes.filterMap (·.record?)).Pairwise fun a b => a.time ≤ b.time := by
  rw [List.pairwise_filterMap]
  refine (List.pairwise_filterMap.mp h.forward).imp_of_mem ?_
  intro x y hx hy hle a ha b hb
  exact hle _ (h.time_eq hx ha) _ (h.time_eq hy hb)

end StoreChange

def Session.within (retention : Duration) (now : Timestamp) (session : Session) : Session :=
  { session with
    collection := { session.collection with
      records := session.collection.records.filter (·.isWithin retention now) } }

def Session.isExpired (retention : Duration) (now : Timestamp) (session : Session) : Bool :=
  session.collection.records.all (!·.isWithin retention now)

namespace SessionStore

/-! ## All records -/

def records (s : SessionStore) : List Record := s.sessions.flatMap (·.collection.records)

variable {s : SessionStore}

theorem records_append_sublist (s : SessionStore) (origin target : Count) (r : Record)
    (now : Timestamp) :
    (s.append origin target r now).records.Sublist (s.records ++ [r]) := by
  have hroom := ((s.goal origin target).collection.makeRoom_suffix now).sublist
  have hkept : ((s.others origin target).flatMap (·.collection.records) ++
      (s.goal origin target).collection.records).Sublist s.records := by
    unfold others goal records
    cases hcurrent : s.current? origin target with
    | none =>
      have hdropped := (s.sessions.drop_sublist s.surplus).flatMap (·.collection.records)
      simpa [emptySession] using hdropped
    | some session =>
      have hsessions := congrArg (·.flatMap (·.collection.records)) (sessions_of_current? hcurrent)
      simp only [List.flatMap_append, List.flatMap_singleton] at hsessions
      rw [hsessions, Option.getD_some]
  unfold records at hkept ⊢
  rw [sessions_append, List.flatMap_append, List.flatMap_singleton, Collection.records_append,
    ← List.append_assoc]
  exact (((List.Sublist.refl _).append hroom).trans hkept).append (List.Sublist.refl _)

theorem records_sweep_sublist (s : SessionStore) (now : Timestamp) :
    (s.sweep now).records.Sublist s.records := by
  unfold records sweep
  refine ((List.filter_sublist).flatMap _).trans ?_
  rw [List.flatMap_map]
  exact List.Sublist.flatMap_right _ fun session _ =>
    (session.collection.sweep_suffix now).sublist

theorem records_apply_sublist (s : SessionStore) (change : StoreChange) :
    (s.apply change).records.Sublist (s.records ++ change.record?.toList) := by
  cases change with
  | append origin target r now => exact s.records_append_sublist origin target r now
  | sweep now =>
    show (s.sweep now).records.Sublist (s.records ++ [])
    rw [List.append_nil]
    exact s.records_sweep_sublist now
  | clear => exact List.nil_sublist _

/-- Nothing is held twice or out of order. -/
theorem records_run_sublist (changes : List StoreChange) : ∀ s : SessionStore,
    (s.run changes).records.Sublist (s.records ++ changes.filterMap (·.record?)) := by
  induction changes with
  | nil => exact fun s => by rw [List.filterMap_nil, List.append_nil]; exact List.Sublist.refl _
  | cons change changes ih =>
    intro s
    have hfirst := (s.records_apply_sublist change).append
      (List.Sublist.refl (changes.filterMap (·.record?)))
    refine (ih (s.apply change)).trans (hfirst.trans ?_)
    cases hrecord : change.record? <;> simp [hrecord]

/-! ## Orderly stores -/

structure Orderly (s : SessionStore) : Prop extends s.Populated where
  sorted : s.records.Pairwise fun a b => a.time ≤ b.time
  apart : (s.sessions.map Session.users).IsChain (· ≠ ·)

/-- A sweep empties the oldest sessions, and of the others it leaves the records
that are within the retention, at least one of each. -/
def SweepsInOrder (s : SessionStore) (now : Timestamp) : Prop :=
  ∃ gone left, s.sessions = gone ++ left ∧
    (∀ session ∈ gone, ∀ r ∈ session.collection.records, r.isWithin s.retention now = false) ∧
    (∀ session ∈ left, ∃ r ∈ session.collection.records, r.isWithin s.retention now = true) ∧
    (s.sweep now).sessions = left.map (·.within s.retention now)

theorem SweepsInOrder.isWithin {now : Timestamp} (h : s.SweepsInOrder now) :
    ∀ r ∈ (s.sweep now).records, r.isWithin s.retention now = true := by
  obtain ⟨_, left, -, -, -, hswept⟩ := h
  intro r hr
  rw [records, hswept, List.flatMap_map] at hr
  obtain ⟨session, -, hr⟩ := List.mem_flatMap.mp hr
  exact (List.mem_filter.mp hr).2

namespace Orderly

theorem sorted_session (h : s.Orderly) {session : Session} (hmem : session ∈ s.sessions) :
    session.collection.records.Pairwise fun a b => a.time ≤ b.time :=
  (List.pairwise_flatMap.mp h.sorted).1 session hmem

theorem sessions_sweep (h : s.Orderly) (now : Timestamp) :
    (s.sweep now).sessions =
      (s.sessions.filter (!·.isExpired s.retention now)).map (·.within s.retention now) := by
  have hswept : s.sessions.map (fun session =>
      { session with collection := session.collection.sweep now }) =
        s.sessions.map (·.within s.retention now) := by
    refine List.map_congr_left fun session hmem => ?_
    rw [Collection.sweep_of_window (h.policy_eq session hmem),
      Collection.recent_eq_filter (h.sorted_session hmem)]
    rfl
  unfold sweep
  rw [hswept, List.filter_map]
  refine congrArg (List.map _) (List.filter_congr fun session _ => ?_)
  rw [Bool.eq_iff_iff]
  simp [Session.within, Session.isExpired, Collection.isEmpty]

/-- A session is expired only after all that are older. -/
theorem isExpired_pairwise (h : s.Orderly) (now : Timestamp) :
    s.sessions.Pairwise fun older newer =>
      newer.isExpired s.retention now = true → older.isExpired s.retention now = true := by
  refine (List.pairwise_flatMap.mp h.sorted).2.imp_of_mem ?_
  intro older newer _ hnewer hle hexpired
  unfold Session.isExpired at hexpired ⊢
  rw [List.all_eq_true] at hexpired ⊢
  intro a ha
  -- A session without records would be expired anywhere, but there is none.
  obtain ⟨b, hb⟩ : ∃ b, b ∈ newer.collection.records := by
    refine List.exists_mem_of_ne_nil _ ?_
    simpa [Collection.isEmpty] using h.nonempty newer hnewer
  have hgone : b.isWithin s.retention now = false := by simpa using hexpired b hb
  cases hkept : a.isWithin s.retention now with
  | false => rfl
  | true =>
    rw [Record.isWithin_of_le (hle a ha b hb) hkept] at hgone
    cases hgone

theorem sweepsInOrder (h : s.Orderly) (now : Timestamp) : s.SweepsInOrder now := by
  have hleft := dropWhile_eq_filter (h.isExpired_pairwise now)
  refine ⟨s.sessions.takeWhile (·.isExpired s.retention now),
    s.sessions.dropWhile (·.isExpired s.retention now),
    List.takeWhile_append_dropWhile.symm, ?_, ?_, ?_⟩
  · intro session hmem r hr
    have hexpired := List.all_eq_true.mp List.all_takeWhile session hmem
    simpa using List.all_eq_true.mp hexpired r hr
  · intro session hmem
    rw [hleft] at hmem
    simpa [Session.isExpired] using (List.mem_filter.mp hmem).2
  · rw [hleft, h.sessions_sweep]

theorem apart_sweep (h : s.Orderly) (now : Timestamp) :
    ((s.sweep now).sessions.map Session.users).IsChain (· ≠ ·) := by
  obtain ⟨gone, left, hsessions, -, -, hswept⟩ := h.sweepsInOrder now
  have hapart := h.apart
  rw [hsessions, List.map_append] at hapart
  rw [hswept, List.map_map]
  exact (List.isChain_append.mp hapart).2.1

/-- A session opens only for other users than those of the newest. -/
theorem apart_append (h : s.Orderly) (origin target : Count) (r : Record) (now : Timestamp) :
    ((s.append origin target r now).sessions.map Session.users).IsChain (· ≠ ·) := by
  have hgoal : (s.goal origin target).users = (origin, target) :=
    (Session.isFor_iff _ origin target).mp (s.isFor_goal origin target)
  have husers : (s.append origin target r now).sessions.map Session.users =
      (s.others origin target).map Session.users ++ [(origin, target)] := by
    rw [sessions_append, List.map_append, ← hgoal]
    rfl
  have hapart := h.apart
  rw [husers]
  unfold others
  cases hcurrent : s.current? origin target with
  | some newest =>
    rw [sessions_of_current? hcurrent, List.map_append] at hapart
    simpa [users_of_current? hcurrent] using hapart
  | none =>
    -- Only the oldest sessions make room: if any is left, the newest of all is the last of them.
    have hother := newestUsers?_ne_some_iff.mpr hcurrent
    rw [← List.take_append_drop s.surplus s.sessions, List.map_append] at hapart
    refine List.isChain_append.mpr ⟨(List.isChain_append.mp hapart).2.1, by simp, ?_⟩
    intro x hx y hy hxy
    rw [List.getLast?_map, Option.mem_def, Option.map_eq_some_iff] at hx
    obtain ⟨newest, hlast, rfl⟩ := hx
    have hnewest : s.sessions.getLast? = some newest := by
      rw [← List.take_append_drop s.surplus s.sessions, List.getLast?_append, hlast, Option.some_or]
    obtain rfl : (origin, target) = y := Option.some.inj hy
    exact hother ((congrArg (Option.map Session.users) hnewest).trans (congrArg some hxy))

end Orderly

/-! ## Runs -/

theorem run_concat (s : SessionStore) (changes : List StoreChange) (change : StoreChange) :
    s.run (changes ++ [change]) = (s.run changes).apply change := List.foldl_concat ..

theorem orderly_run (capacity : Nat) (retention : Duration) (changes : List StoreChange)
    (h : StoreChange.InOrder changes) : (run { capacity, retention } changes).Orderly := by
  have hsorted : (run { capacity, retention } changes).records.Pairwise
      fun a b => a.time ≤ b.time :=
    h.sorted.sublist (records_run_sublist changes { capacity, retention })
  -- The order of the records is that of the whole run; only the neighbours go by single changes.
  induction changes using List.reverseRecOn with
  | nil => exact ⟨⟨by simp [run], by simp [run]⟩, hsorted, by simp [run]⟩
  | append_singleton changes change ih =>
    have hbefore := ih h.of_concat (h.of_concat.sorted.sublist (records_run_sublist changes _))
    rw [run_concat] at hsorted ⊢
    refine ⟨hbefore.toPopulated.apply change, hsorted, ?_⟩
    cases change with
    | append origin target r now => exact hbefore.apart_append origin target r now
    | sweep now => exact hbefore.apart_sweep now
    | clear => exact .nil

end SessionStore

/-! ## The sessions of a profiler -/

namespace ProfilerRun

theorem userSwitch_after_concat (config : Config) (metered : Bool) (operations : List Operation)
    (operation : Operation) :
    (after config metered (operations ++ [operation])).profiler.caches.userSwitch =
      (operation.inputFor .userSwitch).elim
        (after config metered operations).profiler.caches.userSwitch
        ((after config metered operations).profiler.caches.userSwitch.receive config.bounds) := by
  rw [after_concat, caches_perform, config_after]
  exact Caches.get_perform _ _ .userSwitch operation

/-- Seen from its sessions, a run of a profiler is a run of a store that appends
records at their own times. -/
theorem exists_changes (config : Config) (metered : Bool) (operations : List Operation) :
    ∃ changes : List StoreChange,
      (after config metered operations).profiler.caches.userSwitch =
        (Caches.ofConfig config).userSwitch.run changes ∧
      (∀ origin target r now, .append origin target r now ∈ changes → r.time = now) ∧
      changes.filterMap (·.now?) =
        (successes [.userSwitch, .periodic] operations).map (·.1.time) := by
  induction operations using List.reverseRecOn with
  | nil => exact ⟨[], rfl, by simp, rfl⟩
  | append_singleton operations operation ih =>
    obtain ⟨changes, hsessions, htimely, htimes⟩ := ih
    have hstep (change : StoreChange) :=
      (SessionStore.run_concat (Caches.ofConfig config).userSwitch changes change).symm
    rw [userSwitch_after_concat, hsessions]
    -- A clearing, a switch of users and a periodic event reach the sessions, and nothing else.
    rcases operation.inputFor_cases .userSwitch with ⟨hclears, hinput⟩ |
      ⟨hclears, event, sample, hsuccess, hkind, hinput⟩ |
      ⟨hclears, event, sample, hsuccess, hne, hperiodic, hinput⟩ | ⟨hclears, hinput, hne⟩
    · have hnone : ∀ event sample, operation.success? = some (event, sample) →
          event.target.kind ∉ [.userSwitch, .periodic] := by
        intro event sample hsuccess
        obtain ⟨_, rfl⟩ := Operation.success?_eq_some hsuccess
        cases hclears
      rw [hinput, successes_concat_of_ne hnone]
      refine ⟨changes ++ [.clear], ?_, by simpa using htimely, ?_⟩
      · exact hstep .clear
      · rw [List.filterMap_append, htimes]
        exact List.append_nil _
    · rw [hinput, successes_concat hsuccess (by simp [hkind]), List.map_append, ← htimes]
      obtain ⟨_ | _ | ⟨origin, target⟩ | _ | _, time, state⟩ := event <;> cases hkind
      let r := Record.compute time sample config.bounds {}
        (((Caches.ofConfig config).userSwitch.run changes).previous? origin target)
      refine ⟨changes ++ [.append origin target r time], ?_, ?_, List.filterMap_append⟩
      · exact hstep (.append origin target r time)
      · intro origin' target' r' now hmem
        rcases List.mem_append.mp hmem with hmem | hmem
        · exact htimely origin' target' r' now hmem
        · cases List.mem_singleton.mp hmem
          rfl
    · rw [hinput, successes_concat hsuccess (by simp [hperiodic]), List.map_append, ← htimes]
      refine ⟨changes ++ [.sweep event.time], ?_, by simpa using htimely, List.filterMap_append⟩
      exact hstep (.sweep event.time)
    · have hother : ∀ event sample, operation.success? = some (event, sample) →
          event.target.kind ∉ [.userSwitch, .periodic] := by
        intro event sample hsuccess hmem
        obtain ⟨hne, hperiodic⟩ := hne event sample hsuccess
        simp only [List.mem_cons, List.not_mem_nil, or_false] at hmem
        rcases hmem with hmem | hmem
        · exact hne hmem
        · cases hperiodic hmem
      rw [hinput, successes_concat_of_ne hother]
      exact ⟨changes, rfl, htimely, htimes⟩

end ProfilerRun

/-- **Sessions in order.** With a clock that never runs backwards the records of
a store are in the order of their times, neighbouring sessions are for different
users, and whenever the store is swept the oldest sessions go and the others
keep what is within the retention. So after a periodic event a profiler holds no
user-switch record that is older. -/
theorem sessions_chronological :
    (∀ (capacity : Nat) (retention : Duration) (changes : List StoreChange),
      StoreChange.InOrder changes →
        let s := SessionStore.run { capacity, retention } changes
        s.records.Pairwise (fun a b => a.time ≤ b.time) ∧
          (s.sessions.map Session.users).IsChain (· ≠ ·) ∧ ∀ now, s.SweepsInOrder now) ∧
    ∀ (config : Config) (metered : Bool) (operations : List Operation) (event : Event)
      (sample : Sample) (keepsUsage : Bool), event.target = .periodic →
      let whole := operations ++ [.collect event (.ok sample) keepsUsage]
      ((successes [.userSwitch, .periodic] whole).map (·.1.time)).Pairwise (· ≤ ·) →
        ∀ r ∈ (ProfilerRun.after config metered whole).profiler.caches.userSwitch.records,
          r.isWithin config.retention event.time = true := by
  constructor
  · intro capacity retention changes h s
    have hs : s.Orderly := SessionStore.orderly_run capacity retention changes h
    exact ⟨hs.sorted, hs.apart, hs.sweepsInOrder⟩
  · intro config metered operations event sample keepsUsage hperiodic whole hforward r hr
    obtain ⟨changes, hsessions, htimely, htimes⟩ :=
      ProfilerRun.exists_changes config metered operations
    have hbefore : (changes.filterMap (·.now?)).Pairwise (· ≤ ·) := by
      rw [successes_append, List.map_append] at hforward
      rw [htimes]
      exact (List.pairwise_append.mp hforward).1
    have hinput : Operation.inputFor .userSwitch (.collect event (.ok sample) keepsUsage) =
        some (.swept event.time) := by
      simp [Operation.inputFor, hperiodic, Target.kind]
    have hs : ((Caches.ofConfig config).userSwitch.run changes).Orderly :=
      SessionStore.orderly_run config.maxSessions.toNat config.retention changes ⟨htimely, hbefore⟩
    have hretention := SessionStore.retention_run (Caches.ofConfig config).userSwitch changes
    rw [ProfilerRun.userSwitch_after_concat, hinput, hsessions] at hr
    have hwithin := (hs.sweepsInOrder event.time).isWithin r hr
    rwa [hretention] at hwithin

/-- After 25 s only the second of two switches is within ten seconds; after an
hour and a second a profiler has given up the first and holds the second. -/
theorem sessions_chronological_swept :
    let late : Timestamp := ⟨20000000000, by decide, by decide⟩
    let now : Timestamp := ⟨25000000000, by decide, by decide⟩
    let changes : List StoreChange :=
      [.append 0 10 { time := .epoch } .epoch, .append 10 0 { time := late } late]
    let s := SessionStore.run { capacity := 3, retention := .ofSeconds 10 } changes
    let past : Timestamp := ⟨3601000000000, by decide, by decide⟩
    let switches : List Operation :=
      [.collect ⟨.userSwitch 0 10, .epoch, .normal⟩ (.ok {}) false,
        .collect ⟨.userSwitch 10 0, late, .normal⟩ (.ok {}) false]
    let whole := switches ++ [.collect ⟨.periodic, past, .normal⟩ (.ok {}) false]
    let sessions := (ProfilerRun.after {} false whole).profiler.caches.userSwitch
    (StoreChange.InOrder changes ∧ s.SweepsInOrder now ∧ (s.sweep now).size = 1) ∧
      ((successes [.userSwitch, .periodic] whole).map (·.1.time)).Pairwise (· ≤ ·) ∧
      sessions.recordCount = 1 ∧
      ∀ r ∈ sessions.records, r.isWithin ({} : Config).retention past = true := by
  intro late now changes s past switches whole sessions
  have hchanges : StoreChange.InOrder changes := by
    refine ⟨fun origin target r now hmem => ?_, by decide⟩
    rcases List.mem_cons.mp hmem with hfirst | hrest
    · cases hfirst
      rfl
    · cases List.mem_singleton.mp hrest
      rfl
  have hforward : ((successes [.userSwitch, .periodic] whole).map (·.1.time)).Pairwise (· ≤ ·) := by
    decide
  obtain ⟨hstore, hprofiler⟩ := sessions_chronological
  obtain ⟨-, -, hsweeps⟩ := hstore 3 (.ofSeconds 10) changes hchanges
  have hheld := hprofiler {} false switches ⟨.periodic, past, .normal⟩ {} false rfl hforward
  exact ⟨⟨hchanges, hsweeps now, by decide⟩, hforward, by rfl, hheld⟩

end UsageWatch
