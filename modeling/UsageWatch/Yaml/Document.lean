import UsageWatch.Yaml.Node
/-!
# Documents

A text holds one document at most. Directives stand in front of it and call for
a mark at its beginning; marks behind it do not count.
-/

namespace UsageWatch.Yaml

/-- Handles that are known without a directive. -/
def defaultHandles : List (List Char × List Char) :=
  [(['!'], ['!']), (['!', '!'], "tag:yaml.org,2002:".toList)]

/-- Reads directives, each of which may be given once. -/
def readDirectives (versioned : Bool) (handles : List (List Char × List Char)) :
    List Token → Option (List (List Char × List Char) × List Token)
  | .versionDirective major minor :: ts =>
    if versioned || major ≠ 1 || (minor ≠ 1 && minor ≠ 2) then none
    else readDirectives true handles ts
  | .tagDirective handle start :: ts =>
    if (handles.lookup handle).isSome then none
    else readDirectives versioned ((handle, start) :: handles) ts
  | ts => some (handles, ts)

def dropDocumentEnds : List Token → List Token
  | .documentEnd :: ts => dropDocumentEnds ts
  | ts => ts

/-- Enough steps for a reader of nodes: each token takes three at most. -/
def nodeFuel (ts : List Token) : Nat := 3 * ts.length + 3

/-- Whether a document that began with a mark holds nothing. -/
def endsDocument : List Token → Bool
  | [] => true
  | .versionDirective _ _ :: _ | .tagDirective _ _ :: _ | .documentStart :: _ | .documentEnd :: _ =>
    true
  | _ => false

def Node.ofTokens? (ts : List Token) : Option (Option Node) := do
  let (handles, behind) ← readDirectives false [] ts
  let names : Names := { handles := handles ++ defaultHandles }
  match ts, behind with
  | [], _ => some none
  | _, .documentStart :: ts =>
    let (root, _, ts) ←
      if endsDocument ts then some (.empty, names, ts) else readNode .block (nodeFuel ts) names ts
    if (dropDocumentEnds ts).isEmpty then some (some root) else none
  | .versionDirective _ _ :: _, _ | .tagDirective _ _ :: _, _ => none
  | ts, _ =>
    let (root, _, ts) ← readNode .block (nodeFuel ts) names ts
    if (dropDocumentEnds ts).isEmpty then some (some root) else none

def parse? (s : String) : Option (Option Node) := do
  Node.ofTokens? (← tokens? s.toList)

end UsageWatch.Yaml
