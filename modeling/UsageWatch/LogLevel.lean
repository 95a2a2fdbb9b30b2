/-!
# Log levels

How much a program tells about what it does.
-/

namespace UsageWatch

inductive LogLevel where
  | off
  | error
  | warn
  | info
  | debug
  | trace
deriving DecidableEq, Repr, Inhabited

namespace LogLevel

def all : List LogLevel := [off, error, warn, info, debug, trace]

def name : LogLevel → String
  | off => "off"
  | error => "error"
  | warn => "warn"
  | info => "info"
  | debug => "debug"
  | trace => "trace"

def ofName? (s : String) : Option LogLevel := all.find? (·.name = s)

/-- The level that holds: a chosen one, or else the configured one in any mix of
ASCII letter cases, or else `info`. -/
def effective (chosen : Option LogLevel) (configured : String) : LogLevel :=
  (chosen.or (ofName? (String.ofList (configured.toList.map Char.toLower)))).getD info

end LogLevel

end UsageWatch
