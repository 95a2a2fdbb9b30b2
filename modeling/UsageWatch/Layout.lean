/-!
# Layouts

Structured values of a data format are either named entries or plain positions.
A layout lists the fields of a structure, each with the names it answers to, and
says which value belongs to which field.
-/

namespace UsageWatch

/-- The parts of a structured value. A name may be missing where the format
allows names that are no text. -/
inductive Entries (α : Type) where
  | named (entries : List (Option String × α))
  | positional (items : List α)

abbrev Layout := List (List String)

namespace Layout

variable {α : Type}

/-- The values given under one of `names`. -/
def given (names : List String) (entries : List (Option String × α)) : List α :=
  entries.filterMap fun (k, v) => if k.any names.contains then some v else none

/-- The one value of a field, if there is one; a field given twice fails. -/
def unique? : List α → Option (Option α)
  | [] => some none
  | [v] => some (some v)
  | _ => none

/-- The value of each field. Unknown names are passed over, but every name has
to be a text; positions beyond the last field fail. -/
def assign? (layout : Layout) : Entries α → Option (List (Option α))
  | .named entries =>
    if entries.all (·.1.isSome) then layout.mapM fun names => unique? (given names entries)
    else none
  | .positional items =>
    if items.length ≤ layout.length then
      some (items.map some ++ List.replicate (layout.length - items.length) none)
    else none

end Layout

end UsageWatch
