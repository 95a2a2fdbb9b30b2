import UsageWatch.Profiler.Run
/-!
# A shared profiler

Callers share a profiler behind a lock. A caller that breaks off while it holds
the lock poisons it, and leaves what it guards as it was; the next caller goes
on with that.
-/

namespace UsageWatch

inductive Lookup where
  | name
  | config
  | bootTime
  | wakeUp
  | periodic
  | custom
  | sessions
  | recordCount (k : CollectionKind)
  | latestPeriodic

inductive Found where
  | name (text : String)
  | config (c : Config)
  | collection (c : Collection)
  | sessions (s : SessionStore)
  | count (n : Nat)
  | record (r : Option Record)

def Profiler.lookUp (p : Profiler) : Lookup → Found
  | .name => .name Profiler.name
  | .config => .config p.config
  | .bootTime => .collection p.caches.bootTime
  | .wakeUp => .collection p.caches.wakeUp
  | .periodic => .collection p.caches.periodic
  | .custom => .collection p.caches.custom
  | .sessions => .sessions p.caches.userSwitch
  | .recordCount k => .count (p.recordCount k)
  | .latestPeriodic => .record p.latestPeriodic?

inductive Call where
  | operation (o : Operation)
  | lookup (l : Lookup)

inductive Reply where
  /-- How an operation ended, and the usage that its caller holds then. -/
  | operation (answer : Except ProfilerError Answer) (usage : Option ResourceUsage)
  | found (f : Found)

/-- The calendar may not reach a held record. Whoever shows it breaks off. -/
def Reply.brokeOff : Reply → Bool
  | .operation (.error .noDate) _ => true
  | _ => false

namespace ProfilerRun

def call (r : ProfilerRun) : Call → ProfilerRun × Reply
  | .operation o =>
    let (next, answer) := r.perform o
    (next, .operation answer next.usage)
  | .lookup l => (r, .found (r.profiler.lookUp l))

def serve (r : ProfilerRun) : List Call → ProfilerRun × List Reply
  | [] => (r, [])
  | call :: rest =>
    let (next, reply) := r.call call
    let (last, replies) := next.serve rest
    (last, reply :: replies)

end ProfilerRun

structure SharedProfiler where
  guarded : ProfilerRun
  poisoned : Bool := false

namespace SharedProfiler

/-- Taking a poisoned lock is an error, which still carries what is guarded. -/
def acquire (s : SharedProfiler) : Except ProfilerRun ProfilerRun :=
  if s.poisoned then .error s.guarded else .ok s.guarded

/-- Goes on with what is guarded in either case. -/
def lock (s : SharedProfiler) : ProfilerRun :=
  match s.acquire with
  | .ok guarded => guarded
  | .error guarded => guarded

def call (s : SharedProfiler) (c : Call) : SharedProfiler × Reply :=
  let (guarded, reply) := s.lock.call c
  ({ guarded, poisoned := s.poisoned || reply.brokeOff }, reply)

def serve (s : SharedProfiler) : List Call → SharedProfiler × List Reply
  | [] => (s, [])
  | call :: rest =>
    let (next, reply) := s.call call
    let (last, replies) := next.serve rest
    (last, reply :: replies)

end SharedProfiler

end UsageWatch
