import UsageWatch.Json
import UsageWatch.Layout
/-!
# Structures in JSON

A structure is an object, or an array with the fields in their order.
-/

namespace UsageWatch.Json

def entries? : Json → Option (Entries Json)
  | .object members => some (.named members)
  | .array items => some (.positional items)
  | _ => none

def fields? (layout : Layout) (j : Json) : Option (List (Option Json)) :=
  j.entries?.bind layout.assign?

variable {α : Type}

def required (decode : Json → Option α) (field : Option Json) : Option α := field.bind decode

def optional (decode : Json → Option α) (default : α) : Option Json → Option α
  | none => some default
  | some j => decode j

def list? (decode : Json → Option α) (j : Json) : Option (List α) := do
  (← j.items?).mapM decode

end UsageWatch.Json
