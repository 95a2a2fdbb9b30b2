import UsageWatch.Text.Fields
/-!
# Command lines

What may stand on a command line: options with and without a value, operands,
and commands that the rest of the line belongs to. A line is read word by word.
The value of an option is looked at only when the next option or operand comes
or the line ends, so that an unknown word is reported before a value that cannot
be read.
-/

namespace UsageWatch.CommandLine

inductive ArgumentError where
  | missingValue (name : String)
  /-- A value that is none of the words allowed. -/
  | notAllowed (name value : String)
  | unreadableValue (name value : String)
  | unwantedValue (name : String)
  | unknownOption (word : String)
  | unknownCommand (word : String)
  | unexpectedOperand (word : String)
  | missingOperand (name : String)
  /-- An option that is given twice. -/
  | repeated (name : String)
deriving DecidableEq, Repr

def ArgumentError.message : ArgumentError → String
  | .missingValue name => "a value is required for '" ++ name ++ "' but none was supplied"
  | .notAllowed name value | .unreadableValue name value =>
    "invalid value '" ++ value ++ "' for '" ++ name ++ "'"
  | .unwantedValue name => "unexpected value for '" ++ name ++ "'"
  | .unknownOption word | .unexpectedOperand word => "unexpected argument '" ++ word ++ "' found"
  | .unknownCommand word => "unrecognized subcommand '" ++ word ++ "'"
  | .missingOperand name => "the argument '" ++ name ++ "' was not provided"
  | .repeated name => "the argument '" ++ name ++ "' cannot be used multiple times"

/-- Why a command line is not carried out: it is wrong, or it asks about the
program or about a command. -/
inductive Stop where
  | error (e : ArgumentError)
  | help (command : Option String) (full : Bool)
  | version (command : Option String)
deriving DecidableEq, Repr

def Stop.within (command : String) : Stop → Stop
  | .error e => .error e
  | .help _ full => .help (some command) full
  | .version _ => .version (some command)

/-- What a value given to `name` does to a result. -/
abbrev Taker (σ : Type) := (name value : String) → Except ArgumentError (σ → σ)

namespace Taker

variable {σ α : Type}

def text (set : String → σ → σ) : Taker σ := fun _ value => .ok (set value)

def path (set : String → σ → σ) : Taker σ := fun name value =>
  if value.isEmpty then .error (.missingValue name) else .ok (set value)

def word (ofName? : String → Option α) (set : α → σ → σ) : Taker σ := fun name value =>
  (ofName? value).elim (.error (.notAllowed name value)) fun a => .ok (set a)

def parsed (parse? : String → Option α) (set : α → σ → σ) : Taker σ := fun name value =>
  (parse? value).elim (.error (.unreadableValue name value)) fun a => .ok (set a)

end Taker

inductive Effect (σ : Type) where
  | flag (set : σ → σ)
  | value (take : Taker σ)
  | help
  | version

/-- An option: its name behind two hyphens, its letter behind one, and what it is
good for. -/
structure OptionRule (σ : Type) where
  name : String
  letter : Option Char := none
  about : String
  effect : Effect σ
  /-- What holds without the option. -/
  default : Option String := none
  /-- The words that its value is chosen from, if it is. -/
  choices : List String := []

structure OperandRule (σ : Type) where
  name : String
  about : String
  take : Taker σ

structure Grammar (σ : Type) where
  options : List (OptionRule σ)
  /-- Operands in order, each of them required. -/
  operands : List (OperandRule σ) := []
  commands : List String := []

/-- A value that is still to be looked at; none while its word is awaited. -/
structure Pending (σ : Type) where
  name : String
  take : Taker σ
  value : Option String

/-- How far a line has been read. -/
structure Progress (σ : Type) where
  result : σ
  /-- The options that have taken effect. -/
  given : List String := []
  pending : Option (Pending σ) := none
  operandCount : Nat := 0
  /-- Whether every further word is an operand. -/
  literal : Bool := false

variable {σ : Type}

namespace Progress

def awaitsValue (p : Progress σ) : Bool := p.pending.any (·.value.isNone)

def put (p : Progress σ) (name : String) (effect : Except ArgumentError (σ → σ)) :
    Except Stop (Progress σ) :=
  if p.given.contains name then .error (.error (.repeated name))
  else
    match effect with
    | .ok change => .ok { p with result := change p.result, given := name :: p.given }
    | .error e => .error (.error e)

def settle (p : Progress σ) : Except Stop (Progress σ) :=
  match p.pending with
  | none => .ok p
  | some ⟨name, _, none⟩ => .error (.error (.missingValue name))
  | some ⟨name, take, some value⟩ => { p with pending := none }.put name (take name value)

/-- An option given by its name or by its letter, with the value attached to it,
if there is one. -/
def use (p : Progress σ) (o : OptionRule σ) (byName : Bool) (attached : Option String) :
    Except Stop (Progress σ) :=
  match o.effect, attached with
  | .value take, some value => do (← p.settle).put o.name (take o.name value)
  | .value take, none => do
    let p ← p.settle
    pure { p with pending := some ⟨o.name, take, none⟩ }
  | _, some _ => .error (.error (.unwantedValue o.name))
  | .flag set, none => do (← p.settle).put o.name (.ok set)
  | .help, none => do
    let _ ← p.settle
    throw (.help none byName)
  | .version, none => do
    let _ ← p.settle
    throw (.version none)

end Progress

namespace Grammar

variable (g : Grammar σ)

/-- An option by its name, with or without an equals sign and a value. -/
def readName (p : Progress σ) (word : List Char) : Except Stop (Progress σ) :=
  let (name, attached) := (Text.cut? '=' word).elim (word, none) fun (n, v) => (n, some v)
  match g.options.find? (·.name = String.ofList name) with
  | none => .error (.error (.unknownOption ("--" ++ String.ofList name)))
  | some o => p.use o true (attached.map String.ofList)

/-- Options by their letters. What follows the letter of an option with a value
is the value. -/
def readLetters : (p : Progress σ) → List Char → Except Stop (Progress σ)
  | p, [] => .ok p
  | p, c :: rest =>
    match g.options.find? (·.letter = some c) with
    | none => .error (.error (.unknownOption (String.ofList ['-', c])))
    | some o =>
      match o.effect, rest with
      | .value _, [] => p.use o false none
      | .value _, '=' :: value => p.use o false (some (String.ofList value))
      | .value _, value => p.use o false (some (String.ofList value))
      | _, rest => do readLetters (← p.use o false none) rest

def readOperand (p : Progress σ) (word : String) : Except Stop (Progress σ) :=
  match g.operands[p.operandCount]? with
  | some o => do
    let p ← p.settle
    pure { p with
      pending := some ⟨o.name, o.take, some word⟩
      operandCount := p.operandCount + 1 }
  | none =>
    if g.commands.isEmpty || p.literal && g.commands.contains word then
      .error (.error (.unexpectedOperand word))
    else .error (.error (.unknownCommand word))

def readWord (p : Progress σ) (word : String) : Except Stop (Progress σ) :=
  if p.literal then g.readOperand p word
  else
    match word.toList with
    | ['-', '-'] => .ok { p with literal := true }
    | '-' :: '-' :: rest => g.readName p rest
    | '-' :: c :: rest => g.readLetters p (c :: rest)
    | _ =>
      match p.pending with
      | some ⟨name, take, none⟩ => .ok { p with pending := some ⟨name, take, some word⟩ }
      | _ => g.readOperand p word

/-- Reads words up to a command, which comes with the words behind it. -/
def read : (p : Progress σ) → List String →
    Except Stop (Progress σ × Option (String × List String))
  | p, [] => .ok (p, none)
  | p, word :: rest =>
    if !p.literal && !p.awaitsValue && g.commands.contains word then .ok (p, some (word, rest))
    else do read (← g.readWord p word) rest

def finish (p : Progress σ) : Except Stop σ := do
  let p ← p.settle
  match g.operands[p.operandCount]? with
  | some o => throw (.error (.missingOperand o.name))
  | none => pure p.result

def parse (default : σ) (words : List String) : Except Stop σ := do
  let (p, _) ← g.read { result := default } words
  g.finish p

end Grammar

end UsageWatch.CommandLine
