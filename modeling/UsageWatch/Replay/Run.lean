import UsageWatch.Replay.Plan
import UsageWatch.Replay.Source
/-!
# Replaying

Drives a new profiler with recorded samples. The first sample is the boot-time
record; each later one is periodic, one sampling interval after the last, and is
collected once more for the plan's packages. A user switch takes place before
the last sample.
-/

namespace UsageWatch

structure Replay where
  profiler : Profiler
  source : ReplaySource
  now : Timestamp

namespace Replay

def collect (r : Replay) (target : Target) : Except ProfilerError Replay :=
  match r.profiler.collect ⟨target, r.now, .normal⟩ r.source.sample with
  | (_, .error e) => .error e
  | (profiler, .ok _) => .ok { r with profiler }

/-- Boot time, with the first sample. -/
def start (config : Config) (data : ReplayData) (now : Timestamp) : Except ProfilerError Replay := do
  let profiler ← Profiler.create config
  if data.samples.isEmpty then throw .noSamples
  let r ← collect ⟨profiler.systemStartup, .ofData data, now⟩ .bootTime
  pure { r with profiler := r.profiler.serviceRegistered }

def advance (r : Replay) : Except ProfilerError Replay :=
  match r.now.later? r.profiler.config.sampleInterval with
  | none => .error .clockOverflow
  | some now => .ok { r with source := r.source.advance, now }

def step (plan : ReplayPlan) (last : Bool) (r : Replay) : Except ProfilerError Replay := do
  let r ← r.advance
  let r ←
    match plan.userSwitch with
    | some (origin, target) => if last then r.collect (.userSwitch origin target) else pure r
    | none => pure r
  let r ← r.collect .periodic
  if plan.packages.isEmpty then pure r else r.collect (.custom plan.packages)

def steps (plan : ReplayPlan) : (left : Nat) → Replay → Except ProfilerError Replay
  | 0, r => .ok r
  | left + 1, r => do steps plan left (← step plan (left = 0) r)

def run (config : Config) (data : ReplayData) (plan : ReplayPlan) (now : Timestamp) :
    Except ProfilerError Profiler := do
  let r ← start config data now
  let r ← steps plan (data.samples.length - 1) r
  pure r.profiler

end Replay

end UsageWatch
