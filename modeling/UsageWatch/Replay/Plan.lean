import UsageWatch.PackageFilter
import UsageWatch.Text.Numeral
/-!
# Replay plans

What a replay collects besides its periodic records: the packages of custom
collections, and a user switch written `FROM:TO`.
-/

namespace UsageWatch

inductive PlanError where
  /-- The text of a user switch has no colon. -/
  | noColon (text : String)
  | numeral (cause : Text.NumeralError)
deriving DecidableEq, Repr

def PlanError.message : PlanError → String
  | .noColon text => "invalid user switch '" ++ text ++ "', expected FROM:TO"
  | .numeral cause => cause.message

structure ReplayPlan where
  packages : PackageFilter := {}
  userSwitch : Option (UInt32 × UInt32) := none
deriving DecidableEq, Repr, Inhabited

namespace ReplayPlan

def readUser (s : List Char) : Except PlanError UInt32 :=
  (Text.readCount (Text.trim s)).mapError .numeral

/-- Both users of a switch; of two faults the first user's is reported. -/
def parseSwitch (text : String) : Except PlanError (UInt32 × UInt32) :=
  match Text.cut? ':' text.toList with
  | none => .error (.noColon text)
  | some (origin, target) => do
    let origin ← readUser origin
    let target ← readUser target
    pure (origin, target)

def parse (packages userSwitch : Option String) : Except PlanError ReplayPlan := do
  let userSwitch ← userSwitch.mapM parseSwitch
  pure { packages := packages.elim {} .parse, userSwitch }

end ReplayPlan

end UsageWatch
