import UsageWatch.Profiler
import UsageWatch.Replay
/-!
# Replay sources

Serves recorded samples one after the other, from the first again behind the
last. Nothing can be read from a source without samples.
-/

namespace UsageWatch

structure ReplaySource where
  samples : List Sample
  position : Nat := 0

namespace ReplaySource

def ofData (d : ReplayData) : ReplaySource := { samples := d.samples }

def size (s : ReplaySource) : Nat := s.samples.length

def advance (s : ReplaySource) : ReplaySource :=
  if s.samples.isEmpty then s else { s with position := (s.position + 1) % s.size }

def current (s : ReplaySource) : Except SourceError Sample :=
  match s.samples[s.position]? with
  | some sample => .ok sample
  | none => .error .empty

def sources (s : ReplaySource) : Sources Id where
  packages := s.current.map (·.packages)
  system := s.current.map (·.system)

def sample (s : ReplaySource) : Except ProfilerError Sample := Sources.sample (m := Id) s.sources

theorem current_eq_ok {s : ReplaySource} {sample : Sample}
    (h : s.samples[s.position]? = some sample) : s.current = .ok sample := by
  unfold current
  rw [h]

theorem sample_eq_ok {s : ReplaySource} {sample : Sample}
    (h : s.samples[s.position]? = some sample) : s.sample = .ok sample := by
  unfold ReplaySource.sample sources
  rw [current_eq_ok h]
  rfl

theorem sample_eq_error {s : ReplaySource} (h : s.samples = []) :
    s.sample = .error (.source .packages .empty) := by
  have hcurrent : s.current = .error .empty := by
    unfold current
    rw [h, List.getElem?_nil]
  unfold ReplaySource.sample sources
  rw [hcurrent]
  rfl

@[simp] theorem samples_advance (s : ReplaySource) : s.advance.samples = s.samples := by
  unfold advance
  split <;> rfl

/-- Before the last sample the position just moves on. -/
theorem advance_of_lt {s : ReplaySource} (h : s.position + 1 < s.samples.length) :
    s.advance = { s with position := s.position + 1 } := by
  have hne : s.samples ≠ [] := List.ne_nil_of_length_pos (Nat.zero_lt_of_lt h)
  unfold advance size
  rw [if_neg (by simpa using hne), Nat.mod_eq_of_lt h]

end ReplaySource

end UsageWatch
