import UsageWatch.Server
/-!
# Interleaved events

Events that are under way at the same time share one server, and their steps
may follow each other in any order. Each event remembers the sample that it
read its two halves from.
-/

namespace UsageWatch

inductive Stage where
  | waiting
  | moved
  | packagesRead (packagesFrom : Nat) (packages : Except SourceError (List PackageUse))
  | sampled (packagesFrom systemFrom : Nat) (sample : Except ProfilerError Sample)
  | ended (packagesFrom systemFrom : Nat) (result : Except ProfilerError Collected)

structure EventUnderWay where
  event : Event
  stage : Stage := .waiting

namespace EventUnderWay

/-- The next of the four steps. An event that has ended stays as it is. -/
def step (s : Server) (e : EventUnderWay) : Server × EventUnderWay :=
  let here := s.source.position
  let sources := s.source.sources
  match e.stage with
  | .waiting => (s.advance, { e with stage := .moved })
  | .moved => (s, { e with stage := .packagesRead here sources.packages })
  | .packagesRead packagesFrom packages =>
    let sample := Sources.sample (m := Id) ⟨packages, sources.system⟩
    (s, { e with stage := .sampled packagesFrom here sample })
  | .sampled packagesFrom systemFrom sample =>
    let (s, result) := s.complete e.event sample
    (s, { e with stage := .ended packagesFrom systemFrom result })
  | .ended .. => (s, e)

end EventUnderWay

structure Concurrent where
  server : Server
  events : List EventUnderWay

namespace Concurrent

def ofEvents (server : Server) (events : List Event) : Concurrent where
  server := server
  events := events.map fun event => { event }

def turn (c : Concurrent) (i : Nat) : Concurrent :=
  match c.events[i]? with
  | none => c
  | some e =>
    let (server, e) := e.step c.server
    { server, events := c.events.set i e }

/-- A schedule names the event that takes each step. -/
def run (c : Concurrent) (schedule : List Nat) : Concurrent := schedule.foldl turn c

end Concurrent

end UsageWatch
