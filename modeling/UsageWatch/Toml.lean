/-!
# TOML values

What a document says: numbers, texts, dates, arrays and tables. Entries keep
their order and repetitions; whoever reads a table decides what a repeated key
means.
-/

namespace UsageWatch

inductive Toml where
  /-- A whole number of 64 bits with a sign. -/
  | integer (n : Int)
  /-- A number with a fraction or an exponent, infinity, or no number at all. -/
  | real
  | boolean (b : Bool)
  | text (s : String)
  /-- A date or a time, which is not looked into. -/
  | moment
  | array (items : List Toml)
  /-- An open table came about by a dotted key, and more dotted keys may extend it. -/
  | table (isOpen : Bool) (entries : List (String × Toml))
deriving Inhabited

namespace Toml

def find? (key : String) : List (String × Toml) → Option Toml
  | [] => none
  | (k, v) :: rest => if k = key then some v else find? key rest

def replace (key : String) (v : Toml) : List (String × Toml) → List (String × Toml)
  | [] => []
  | (k, old) :: rest => if k = key then (k, v) :: rest else (k, old) :: replace key v rest

/-- Adds a value under a dotted key. Only open tables are extended. -/
def insert? (v : Toml) : List String → List (String × Toml) → Option (List (String × Toml))
  | [], _ => none
  | [key], entries => some (entries ++ [(key, v)])
  | key :: path, entries =>
    match find? key entries with
    | some (.table true inner) => do
      let inner ← insert? v path inner
      some (replace key (.table true inner) entries)
    | some _ => none
    | none => do
      let inner ← insert? v path []
      some (entries ++ [(key, .table true inner)])

end Toml

end UsageWatch
