import UsageWatch.Calendar
import UsageWatch.CollectionKind
/-!
# Health

Whether collections succeed, as a table for people.
-/

namespace UsageWatch

structure Outcomes where
  lastSuccess : Option Timestamp := none
  /-- Why the newest collection failed, if it did. -/
  lastError : Option String := none
  total : Nat := 0
  failed : Nat := 0

namespace Outcomes

def succeeded (o : Outcomes) (now : Timestamp) : Outcomes :=
  { o with total := o.total + 1, lastSuccess := some now, lastError := none }

def failedWith (o : Outcomes) (reason : String) : Outcomes :=
  { o with total := o.total + 1, failed := o.failed + 1, lastError := some reason }

def isHealthy (o : Outcomes) : Bool := o.lastSuccess.isSome && o.lastError.isNone

def summary (o : Outcomes) : String :=
  match o.lastError, o.lastSuccess with
  | some reason, _ => "Last collection failed: " ++ reason
  | none, some _ => "OK"
  | none, none => "No collection yet"

end Outcomes

namespace Health

/-- Two columns, the first filled up on the right and the second on the left. -/
def row (label value : String) : String :=
  label.pushn ' ' (25 - label.length) ++ " | " ++ "".pushn ' ' (12 - value.length) ++ value ++ "\n"

def lastSuccessText? : Option Timestamp → Option String
  | none => some "never"
  | some t => t.civil?.map (·.isoText)

/-- The table; none if the calendar does not reach the last success. -/
def table? (o : Outcomes) (counts : List (CollectionKind × Nat)) (latestCpu : Option UInt64)
    (uptimeSeconds : Nat) : Option String := do
  let last ← lastSuccessText? o.lastSuccess
  some ("COLLECTION STATUS\n=================\n\n"
    ++ row "Uptime (s)" (toString uptimeSeconds)
    ++ row "Collections" (toString o.total)
    ++ row "Failed collections" (toString o.failed)
    ++ row "Last success" last
    ++ latestCpu.elim "" (fun n => row "Latest CPU time (ms)" (toString n.toNat))
    ++ "\n" ++ row "Collection" "Records" ++ "".pushn '-' 40 ++ "\n"
    ++ String.join (counts.map fun (k, n) => row k.name (toString n)))

def footer : String :=
  "Project: https://github.com/herakles-io/herakles-perf-profiler — More info: https://www.herakles.io — Support: proc-mem@herakles.io"

end Health

end UsageWatch
