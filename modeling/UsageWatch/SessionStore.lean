import UsageWatch.Collection
/-!
# User-switch sessions

Records collected around a change of user are grouped by session: consecutive
collections for the same pair of users share one. The store holds a bounded
number of sessions, oldest first, and each session ages on its own.
-/

namespace UsageWatch

structure Session where
  origin : Count
  target : Count
  collection : Collection

def Session.isFor (s : Session) (origin target : Count) : Bool :=
  s.origin == origin && s.target == target

structure SessionStore where
  capacity : Nat
  retention : Duration
  sessions : List Session := []

/-- What an append did to the store. -/
structure SessionAppend where
  /-- Records the session itself gave up. -/
  displaced : Nat
  /-- Records lost with sessions that made room. -/
  displacedWithSessions : Nat
  sessionEvicted : Bool
  opened : Bool
deriving DecidableEq, Repr

namespace SessionStore

def size (s : SessionStore) : Nat := s.sessions.length

def isEmpty (s : SessionStore) : Bool := s.sessions.isEmpty

def tally (figure : Session → Nat) (sessions : List Session) : Nat :=
  sessions.foldr (fun session n => figure session + n) 0

def countRecords (sessions : List Session) : Nat := tally (·.collection.size) sessions

def recordCount (s : SessionStore) : Nat := countRecords s.sessions

def current? (s : SessionStore) (origin target : Count) : Option Session :=
  s.sessions.getLast?.filter (·.isFor origin target)

/-- The newest record of the session that an append for this pair continues. -/
def previous? (s : SessionStore) (origin target : Count) : Option Record :=
  (s.current? origin target).bind (·.collection.last?)

def emptySession (s : SessionStore) (origin target : Count) : Session :=
  ⟨origin, target, { policy := .window s.retention }⟩

/-- Number of sessions that leave before a new one opens: as many as exceed the
capacity less one, at most all. -/
def surplus (s : SessionStore) : Nat := min s.sessions.length (s.sessions.length + 1 - s.capacity)

def append (s : SessionStore) (origin target : Count) (r : Record) (now : Timestamp) :
    SessionStore :=
  match s.current? origin target with
  | some session =>
    { s with
      sessions := s.sessions.dropLast
        ++ [{ session with collection := session.collection.append r now }] }
  | none =>
    let session := s.emptySession origin target
    { s with
      sessions := s.sessions.drop s.surplus
        ++ [{ session with collection := session.collection.append r now }] }

def appendOutcome (s : SessionStore) (origin target : Count) (now : Timestamp) : SessionAppend :=
  match s.current? origin target with
  | some session => ⟨session.collection.displaced now, 0, false, false⟩
  | none => ⟨0, countRecords (s.sessions.take s.surplus), decide (0 < s.surplus), true⟩

/-- Drops expired records, then sessions left without any. -/
def sweep (s : SessionStore) (now : Timestamp) : SessionStore :=
  { s with
    sessions := (s.sessions.map fun session =>
      { session with collection := session.collection.sweep now }).filter
        (!·.collection.isEmpty) }

def expired (s : SessionStore) (now : Timestamp) : Nat :=
  tally (·.collection.expired now) s.sessions

def clear (s : SessionStore) : SessionStore := { s with sessions := [] }

end SessionStore

end UsageWatch
