import UsageWatch.Profiler
/-!
# Runs of a profiler

What can be done to a profiler, as data, and what comes back from it. A run
performs one operation after the other; the caller holds the usage of those
events that were to leave it.
-/

namespace UsageWatch

inductive Operation where
  /-- With `keepsUsage`, the caller takes the usage that the event hands back. -/
  | collect (event : Event) (sampled : Except ProfilerError Sample) (keepsUsage : Bool)
  | systemStartup
  | serviceRegistered
  | setMirroring (on : Bool)
  | terminate
  | clearCustom
  /-- The sink takes the report, or refuses it with a reason. -/
  | dump (refusal : Option String)
  | dumpCustom (refusal : Option String)
  | dumpMessage (intervals : Intervals)
  | appendMessage (intervals : Intervals) (buffer : List UInt8)

inductive Answer where
  | done
  | report (text : String)
  | message (dump : Wire.ProfilerDump)
  | bytes (buffer : List UInt8)

def Profiler.keepUnless (refusal : Option String) :
    Profiler.Sink (StateM String) := fun report =>
  match refusal with
  | some reason => pure (.error reason)
  | none => do set report; pure (.ok ())

structure ProfilerRun where
  profiler : Profiler
  /-- What the caller holds. -/
  usage : Option ResourceUsage := none

namespace ProfilerRun

def becomes (r : ProfilerRun) (p : Profiler) : ProfilerRun × Except ProfilerError Answer :=
  ({ r with profiler := p }, .ok .done)

def kept (dumped : StateM String (Except ProfilerError Unit)) : Except ProfilerError Answer :=
  let (result, report) := dumped.run ""
  result.map fun _ => .report report

def perform (r : ProfilerRun) : Operation → ProfilerRun × Except ProfilerError Answer
  | .collect event sampled keepsUsage =>
    let (profiler, result) := r.profiler.collect event sampled
    let usage := if keepsUsage then Profiler.usageAfter r.usage result else r.usage
    ({ profiler, usage }, result.map fun _ => .done)
  | .systemStartup => r.becomes r.profiler.systemStartup
  | .serviceRegistered => r.becomes r.profiler.serviceRegistered
  | .setMirroring on => r.becomes (r.profiler.setMirroring on)
  | .terminate => r.becomes r.profiler.terminate
  | .clearCustom => r.becomes r.profiler.clearCustom
  | .dump refusal => (r, kept (r.profiler.dump (Profiler.keepUnless refusal)))
  | .dumpCustom refusal => (r, kept (r.profiler.dumpCustom (Profiler.keepUnless refusal)))
  | .dumpMessage intervals => (r, (r.profiler.dumpMessage intervals).map .message)
  | .appendMessage intervals buffer =>
    (r, (r.profiler.appendMessage intervals buffer).map .bytes)

def run (r : ProfilerRun) : List Operation → ProfilerRun × List (Except ProfilerError Answer)
  | [] => (r, [])
  | operation :: rest =>
    let (next, answer) := r.perform operation
    let (last, answers) := next.run rest
    (last, answer :: answers)

end ProfilerRun

end UsageWatch
