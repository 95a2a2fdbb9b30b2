import UsageWatch.Layout
import UsageWatch.Profiler
import UsageWatch.Text.Fields
import UsageWatch.Text.Numeral
import UsageWatch.Text.Utf8
/-!
# Request targets

The path and the query of a request. A query is a list of pairs in form
encoding; parameters may come in any order, but each at most once.
-/

namespace UsageWatch

structure RequestTarget where
  path : String
  query : Option String := none
deriving DecidableEq, Repr

namespace RequestTarget

/-- Without a scheme and a host in front. -/
def dropAuthority (s : List Char) : List Char :=
  match s with
  | '/' :: _ => s
  | _ =>
    match Text.cut? ':' s with
    | some (_, '/' :: '/' :: rest) => rest.dropWhile fun c => c ≠ '/' && c ≠ '?'
    | _ => []

/-- A target as it is requested; a fragment does not count. -/
def parse (uri : String) : RequestTarget :=
  let s := dropAuthority (uri.toList.takeWhile (· ≠ '#'))
  match Text.cut? '?' s with
  | some (path, query) => ⟨String.ofList path, some (String.ofList query)⟩
  | none => ⟨String.ofList s, none⟩

end RequestTarget

namespace Query

def hexValue? (b : UInt8) : Option UInt8 :=
  if 48 ≤ b && b ≤ 57 then some (b - 48)
  else if 65 ≤ b && b ≤ 70 then some (b - 55)
  else if 97 ≤ b && b ≤ 102 then some (b - 87)
  else none

/-- Plus signs are blanks, and a percent sign with two hex digits is a byte. -/
def unescape : List UInt8 → List UInt8
  | [] => []
  | 43 :: rest => 32 :: unescape rest
  | 37 :: a :: b :: rest =>
    match hexValue? a, hexValue? b with
    | some x, some y => (x * 16 + y) :: unescape rest
    | _, _ => 37 :: unescape (a :: b :: rest)
  | b :: rest => b :: unescape rest

def component (s : List Char) : String :=
  String.ofList (Text.decodeLossy (unescape (String.ofList s).toUTF8.toList))

/-- The pairs of a query; a piece without an equals sign has an empty value. -/
def pairs (query : String) : List (String × String) :=
  ((Text.fields '&' query.toList).filter (· ≠ [])).map fun piece =>
    match Text.cut? '=' piece with
    | some (k, v) => (component k, component v)
    | none => (component piece, "")

/-- The values of some parameters; none if one is given twice. -/
def parameters? (names : List String) (query : Option String) : Option (List (Option String)) :=
  Layout.assign? (names.map fun name => [name])
    (.named ((pairs (query.getD "")).map fun (k, v) => (some k, v)))

def userSwitch? (query : Option String) : Option Target := do
  match ← parameters? ["from", "to"] query with
  | [some origin, some target] =>
    some (.userSwitch (← (Text.readCount origin.toList).toOption)
      (← (Text.readCount target.toList).toOption))
  | _ => none

def custom? (query : Option String) : Option (Target × SystemState) := do
  match ← parameters? ["packages", "state"] query with
  | [packages, state] =>
    let state ← state.elim (some .normal) SystemState.ofName?
    some (.custom (packages.elim {} .parse), state)
  | _ => none

end Query

end UsageWatch
