import UsageWatch.Text.Blank
import UsageWatch.Text.Fields
/-!
# Package filters

A finite set of package names, kept as an ascending list so that equal sets are
equal values. The empty filter restricts nothing.
-/

namespace UsageWatch

structure PackageFilter where
  names : List String := []
deriving DecidableEq, Repr, Inhabited

namespace PackageFilter

def insertName (name : String) : List String → List String
  | [] => [name]
  | first :: rest =>
    if name < first then name :: first :: rest
    else if name = first then first :: rest
    else first :: insertName name rest

def ofNames (names : List String) : PackageFilter := ⟨names.foldr insertName []⟩

def isEmpty (f : PackageFilter) : Bool := f.names.isEmpty

instance : Membership String PackageFilter := ⟨fun f name => name ∈ f.names⟩
instance (name : String) (f : PackageFilter) : Decidable (name ∈ f) :=
  inferInstanceAs (Decidable (name ∈ f.names))

def admits (f : PackageFilter) (name : String) : Bool := f.isEmpty || decide (name ∈ f)

/-- The names of a comma-separated list. Blanks around a name and empty items
do not count. -/
def parse (text : String) : PackageFilter :=
  ofNames <| ((Text.fields ',' text.toList).map Text.trim).filter (· ≠ []) |>.map String.ofList

end PackageFilter

end UsageWatch
