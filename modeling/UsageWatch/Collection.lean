import UsageWatch.Record
/-!
# Collections

The records of one kind of event, oldest first, bounded by an eviction policy.
Records only ever leave from the old end, except when a collection is cleared.
-/

namespace UsageWatch

inductive EvictionPolicy where
  /-- At most `size` records. -/
  | fifo (size : Nat)
  /-- Records no older than `retention`. -/
  | window (retention : Duration)
  | unbounded
deriving DecidableEq, Repr

structure Collection where
  policy : EvictionPolicy
  records : List Record := []

namespace Collection

def last? (c : Collection) : Option Record := c.records.getLast?

def size (c : Collection) : Nat := c.records.length

def isEmpty (c : Collection) : Bool := c.records.isEmpty

/-- What is left of `records` at `now`: a prefix of records older than the
retention goes. Nothing goes when the start of the window is out of range. -/
def recent (retention : Duration) (now : Timestamp) (records : List Record) : List Record :=
  match now.earlier? retention with
  | some cutoff => records.dropWhile fun r => decide (r.time < cutoff)
  | none => records

def sweep (c : Collection) (now : Timestamp) : Collection :=
  match c.policy with
  | .window retention => { c with records := recent retention now c.records }
  | _ => c

/-- Makes room for one more record at `now`. A queue that holds its bound or
more gives up its oldest records, at most all of them. -/
def makeRoom (c : Collection) (now : Timestamp) : Collection :=
  match c.policy with
  | .fifo size => { c with records := c.records.drop (c.records.length + 1 - size) }
  | .window _ => c.sweep now
  | .unbounded => c

def append (c : Collection) (r : Record) (now : Timestamp) : Collection :=
  { c.makeRoom now with records := (c.makeRoom now).records ++ [r] }

def clear (c : Collection) : Collection := { c with records := [] }

/-- Records that a sweep at `now` drops. -/
def expired (c : Collection) (now : Timestamp) : Nat := c.size - (c.sweep now).size

/-- Records that an append at `now` drops. -/
def displaced (c : Collection) (now : Timestamp) : Nat := c.size - (c.makeRoom now).size

def duration (c : Collection) : Duration :=
  match c.records.head?, c.records.getLast? with
  | some first, some last => last.time.since first.time
  | _, _ => 0

end Collection

end UsageWatch
