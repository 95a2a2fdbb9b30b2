import UsageWatch.Yaml.Token.Reader
/-!
# Nodes

A document as a tree of scalars, sequences and mappings. Anchors are numbered;
an alias stands for the last node that bears its number.
-/

namespace UsageWatch.Yaml

inductive Node where
  | scalar (anchor : Option Nat) (tag : Option (List Char)) (style : ScalarStyle) (text : List Char)
  | sequence (anchor : Option Nat) (items : List Node)
  | mapping (anchor : Option Nat) (entries : List (Node × Node))
  | alias (anchor : Nat)
deriving Inhabited

namespace Node

def anchor? : Node → Option Nat
  | .scalar a _ _ _ => a
  | .sequence a _ => a
  | .mapping a _ => a
  | .alias _ => none

def empty : Node := .scalar none none .plain []

mutual

/-- The nodes of a tree, each in front of those below it. -/
def all : Node → List Node
  | .sequence a items => .sequence a items :: allItems items
  | .mapping a entries => .mapping a entries :: allEntries entries
  | n => [n]

def allItems : List Node → List Node
  | [] => []
  | n :: rest => all n ++ allItems rest

def allEntries : List (Node × Node) → List Node
  | [] => []
  | (k, v) :: rest => all k ++ all v ++ allEntries rest

end

/-- The last node with an anchor. -/
def anchored? (document : Node) (anchor : Nat) : Option Node :=
  document.all.reverse.find? (·.anchor? = some anchor)

def resolve? (document n : Node) : Option Node :=
  match n with
  | .alias anchor => document.anchored? anchor
  | n => some n

end Node

/-! ## Properties -/

/-- What the names in a document mean. -/
structure Names where
  /-- The numbers of the anchors so far. -/
  anchors : List (List Char × Nat) := []
  /-- What the handles of tags stand for. -/
  handles : List (List Char × List Char) := []

/-- Every new name gets the next number; a name used again gets that number
too, which then is not its own. -/
def Names.addAnchor (names : Names) (name : List Char) : Names :=
  { names with
    anchors := (name, names.anchors.length) :: names.anchors.filter (·.1 ≠ name) }

def Names.anchor? (names : Names) (name : List Char) : Option Nat := names.anchors.lookup name

/-- A tag in full; its handle has to be known. -/
def Names.tag? (names : Names) (t : TagName) : Option (List Char) :=
  if t.handle.isEmpty then some t.suffix else (names.handles.lookup t.handle).map (· ++ t.suffix)

structure Properties where
  anchor : Option (List Char) := none
  tag : Option TagName := none

def Properties.isEmpty (p : Properties) : Bool := p.anchor.isNone && p.tag.isNone

/-- An anchor and a tag in front of a node, in either order. -/
def readProperties : List Token → Properties × List Token
  | .anchor a :: .tag t :: ts => (⟨some a, some t⟩, ts)
  | .tag t :: .anchor a :: ts => (⟨some a, some t⟩, ts)
  | .anchor a :: ts => (⟨some a, none⟩, ts)
  | .tag t :: ts => (⟨none, some t⟩, ts)
  | ts => ({}, ts)

/-! ## Nodes

Each reader returns what it read, the names known then, and the tokens behind.
-/

abbrev Reading (α : Type) := α × Names × List Token

/-- Whether the block entry in front of these tokens holds nothing. -/
def endsEntry : List Token → Bool
  | .blockEntry :: _ | .blockEnd :: _ => true
  | _ => false

/-- Whether a key or a value in front of these tokens holds nothing. -/
def endsPart : List Token → Bool
  | .key :: _ | .value :: _ | .blockEnd :: _ => true
  | _ => false

/-- Whether an item or a value in front of these tokens holds nothing. -/
def endsItem : List Token → Bool
  | .flowEntry :: _ | .flowSequenceEnd :: _ => true
  | _ => false

def endsFlowValue : List Token → Bool
  | .flowEntry :: _ | .flowMappingEnd :: _ => true
  | _ => false

inductive Place where
  | flow
  | block
  /-- In a block mapping, whose sequences need no indentation. -/
  | inMapping
deriving DecidableEq, Repr

def Place.isBlock : Place → Bool
  | .flow => false
  | .block | .inMapping => true

mutual

def readNode (place : Place) : (fuel : Nat) → Names → List Token → Option (Reading Node)
  | 0, _, _ => none
  | _ + 1, names, .alias name :: ts => do
    some (.alias (← names.anchor? name), names, ts)
  | fuel + 1, names, ts => do
    let (properties, ts) := readProperties ts
    let tag ← properties.tag.mapM names.tag?
    let names := properties.anchor.elim names names.addAnchor
    let anchor := properties.anchor.bind names.anchor?
    match ts with
    | .blockEntry :: _ =>
      if place = .inMapping then
        let (items, names, ts) ← readUnindented fuel names ts
        some (.sequence anchor items, names, ts)
      else if properties.isEmpty then none
      else some (.scalar anchor tag .plain [], names, ts)
    | .scalar style text :: ts => some (.scalar anchor tag style text, names, ts)
    | .flowSequenceStart :: ts =>
      let (items, names, ts) ← readItems true fuel names ts
      some (.sequence anchor items, names, ts)
    | .flowMappingStart :: ts =>
      let (entries, names, ts) ← readFlowEntries true fuel names ts
      some (.mapping anchor entries, names, ts)
    | .blockSequenceStart :: rest =>
      if place.isBlock then
        let (items, names, ts) ← readBlockItems fuel names rest
        some (.sequence anchor items, names, ts)
      else if properties.isEmpty then none
      else some (.scalar anchor tag .plain [], names, ts)
    | .blockMappingStart :: rest =>
      if place.isBlock then
        let (entries, names, ts) ← readBlockEntries fuel names rest
        some (.mapping anchor entries, names, ts)
      else if properties.isEmpty then none
      else some (.scalar anchor tag .plain [], names, ts)
    | ts =>
      if properties.isEmpty then none else some (.scalar anchor tag .plain [], names, ts)

def readBlockItems : (fuel : Nat) → Names → List Token → Option (Reading (List Node))
  | 0, _, _ => none
  | fuel + 1, names, .blockEntry :: ts => do
    let (item, names, ts) ←
      if endsEntry ts then some (.empty, names, ts) else readNode .block fuel names ts
    let (items, names, ts) ← readBlockItems fuel names ts
    some (item :: items, names, ts)
  | _ + 1, names, .blockEnd :: ts => some ([], names, ts)
  | _ + 1, _, _ => none

/-- The items of a sequence that is not indented, which has no end of its own. -/
def readUnindented : (fuel : Nat) → Names → List Token → Option (Reading (List Node))
  | 0, _, _ => none
  | fuel + 1, names, .blockEntry :: ts => do
    let (item, names, ts) ←
      if endsEntry ts || endsPart ts then some (.empty, names, ts) else readNode .block fuel names ts
    let (items, names, ts) ← readUnindented fuel names ts
    some (item :: items, names, ts)
  | _ + 1, names, ts => some ([], names, ts)

def readBlockEntries : (fuel : Nat) → Names → List Token → Option (Reading (List (Node × Node)))
  | 0, _, _ => none
  | fuel + 1, names, .key :: ts => do
    let (k, names, ts) ←
      if endsPart ts then some (.empty, names, ts) else readNode .inMapping fuel names ts
    let (v, names, ts) ←
      match ts with
      | .value :: ts =>
        if endsPart ts then some (.empty, names, ts) else readNode .inMapping fuel names ts
      | ts => some (.empty, names, ts)
    let (entries, names, ts) ← readBlockEntries fuel names ts
    some ((k, v) :: entries, names, ts)
  | _ + 1, names, .blockEnd :: ts => some ([], names, ts)
  | _ + 1, _, _ => none

/-- The items of a sequence in brackets. An item may be a mapping of one pair. -/
def readItems (first : Bool) : (fuel : Nat) → Names → List Token → Option (Reading (List Node))
  | 0, _, _ => none
  | _ + 1, names, .flowSequenceEnd :: ts => some ([], names, ts)
  | fuel + 1, names, ts => do
    let ts ←
      match first, ts with
      | false, .flowEntry :: ts => some ts
      | false, _ => none
      | true, ts => some ts
    match ts with
    | .flowSequenceEnd :: ts => some ([], names, ts)
    | .key :: ts =>
      let (pair, names, ts) ← readPair fuel names ts
      let (items, names, ts) ← readItems false fuel names ts
      some (.mapping none [pair] :: items, names, ts)
    | ts =>
      let (item, names, ts) ← readNode .flow fuel names ts
      let (items, names, ts) ← readItems false fuel names ts
      some (item :: items, names, ts)

/-- A pair behind its key mark. A pair without a key loses the mark behind it. -/
def readPair : (fuel : Nat) → Names → List Token → Option (Reading (Node × Node))
  | 0, _, _ => none
  | fuel + 1, names, ts => do
    let (k, names, ts) ←
      match ts with
      | .value :: ts => some (.empty, names, ts)
      | .flowEntry :: ts => some (.empty, names, ts)
      | .flowSequenceEnd :: ts => some (.empty, names, ts)
      | ts => readNode .flow fuel names ts
    match ts with
    | .value :: ts =>
      let (v, names, ts) ←
        if endsItem ts then some (.empty, names, ts) else readNode .flow fuel names ts
      some ((k, v), names, ts)
    | ts => some ((k, .empty), names, ts)

def readFlowEntries (first : Bool) : (fuel : Nat) → Names → List Token →
    Option (Reading (List (Node × Node)))
  | 0, _, _ => none
  | _ + 1, names, .flowMappingEnd :: ts => some ([], names, ts)
  | fuel + 1, names, ts => do
    let ts ←
      match first, ts with
      | false, .flowEntry :: ts => some ts
      | false, _ => none
      | true, ts => some ts
    match ts with
    | .flowMappingEnd :: ts => some ([], names, ts)
    | .key :: ts =>
      let (k, names, ts) ←
        match ts with
        | .value :: _ => some (.empty, names, ts)
        | ts =>
          if endsFlowValue ts then some (.empty, names, ts) else readNode .flow fuel names ts
      let (v, names, ts) ←
        match ts with
        | .value :: ts =>
          if endsFlowValue ts then some (.empty, names, ts) else readNode .flow fuel names ts
        | ts => some (.empty, names, ts)
      let (entries, names, ts) ← readFlowEntries false fuel names ts
      some ((k, v) :: entries, names, ts)
    | ts =>
      let (k, names, ts) ← readNode .flow fuel names ts
      let (entries, names, ts) ← readFlowEntries false fuel names ts
      some ((k, .empty) :: entries, names, ts)

end

end UsageWatch.Yaml
