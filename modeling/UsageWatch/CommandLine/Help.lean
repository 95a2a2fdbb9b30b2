import UsageWatch.CommandLine.Options
/-!
# Help

Pages that list what may stand on a command line. Explanations stand beside the
options as long as there is room for them, and else below.
-/

namespace UsageWatch.CommandLine

/-- One line of a list: what is explained, the explanation, and remarks. -/
structure HelpEntry where
  label : String
  /-- Whether the label leaves out the place of a letter. -/
  indented : Bool := false
  about : String
  remarks : List String := []

structure HelpPage where
  about : String
  usage : String
  /-- Lists under their headings; empty ones are left out. -/
  lists : List (String × List HelpEntry)
  footer : Option String := none

namespace HelpEntry

/-- The label as it counts for the width of a list, without a letter in front. -/
def width (e : HelpEntry) : Nat :=
  match e.label.toList with
  | '-' :: c :: rest => if c = '-' then e.label.length else rest.length - 2
  | label => label.length

/-- The label in its place: two columns from the margin, and behind the place of
a letter if it has none. -/
def shownLabel (e : HelpEntry) : String := (if e.indented then "      " else "  ") ++ e.label

def text (full : Bool) (e : HelpEntry) : String :=
  if e.remarks.isEmpty then e.about
  else if full then e.about ++ "\n\n" ++ "\n".intercalate e.remarks
  else e.about ++ " " ++ " ".intercalate e.remarks

end HelpEntry

namespace HelpPage

def spaces (n : Nat) : String := "".pushn ' ' n

def pageWidth : Nat := 100

/-- Whether some explanation has no room beside labels of a width. -/
def isCrowded (width : Nat) (entries : List HelpEntry) : Bool :=
  let taken := width + 12
  pageWidth * 2 < taken * 5 && taken ≤ pageWidth
    && entries.any fun e => pageWidth - taken < e.about.length + e.remarks.foldl (fun n r => n + r.length) 0

/-- A list, in which every explanation begins in one column. -/
def listText (full : Bool) (entries : List HelpEntry) : String :=
  let width := entries.foldl (fun n e => max n e.width) 2
  let below := full || isCrowded width entries
  let entryText (e : HelpEntry) : String :=
    let text := e.text full
    if below then
      let lines := (Text.fields '\n' text.toList).map String.ofList
      e.shownLabel ++ String.join (lines.map fun l => "\n" ++ spaces 10 ++ l)
    else e.shownLabel ++ spaces (width - e.width + 2) ++ text
  (if full then "\n\n" else "\n").intercalate (entries.map entryText)

def render (full : Bool) (p : HelpPage) : String :=
  let listed := p.lists.filter fun l => !l.2.isEmpty
  let lists := listed.map fun (heading, entries) =>
    "\n\n" ++ heading ++ ":\n" ++ listText (full && heading = "Options") entries
  p.about ++ "\n\nUsage: " ++ p.usage ++ String.join lists
    ++ p.footer.elim "" ("\n\n" ++ ·) ++ "\n"

end HelpPage

/-! ## Pages from grammars -/

def valueName (name : String) : String :=
  String.ofList (name.toList.map fun c => if c = '-' then '_' else c.toUpper)

variable {σ : Type}

def OptionRule.entry (o : OptionRule σ) : HelpEntry where
  label :=
    o.letter.elim "" (fun c => String.ofList ['-', c, ',', ' ']) ++ "--" ++ o.name
      ++ (match o.effect with
        | .value _ => " <" ++ valueName o.name ++ ">"
        | _ => "")
  indented := o.letter.isNone
  about := o.about
  remarks :=
    let choices := "[possible values: " ++ ", ".intercalate o.choices ++ "]"
    (o.default.map fun d => "[default: " ++ d ++ "]").toList
      ++ (if o.choices.isEmpty then [] else [choices])

def OperandRule.entry (o : OperandRule σ) : HelpEntry where
  label := "<" ++ o.name ++ ">"
  about := o.about

def Grammar.lists (g : Grammar σ) : List (String × List HelpEntry) :=
  [("Arguments", g.operands.map OperandRule.entry), ("Options", g.options.map OptionRule.entry)]

def commandAbout : String → String
  | "check" => "Validate configuration and, optionally, a replay file"
  | "config" => "Generate configuration files"
  | "generate-testdata" => "Generate a synthetic replay file"
  | "replay" => "Run a replay file through the profiler and print the dump"
  | _ => "Print this message or the help of the given subcommand(s)"

def description : String :=
  "Reduces per-UID CPU, storage I/O, blocked-task and major page fault deltas "
    ++ "into Top-N records and keeps boot-time, wake-up, periodic, user-switch and "
    ++ "custom collections. Serves text and protobuf dumps over HTTP."

def mainPage (program footer : String) (full : Bool) : HelpPage where
  about :=
    "Resource-usage profiler with bounded Top-N collection caches"
      ++ (if full then ".\n\n" ++ description else "")
  usage := program ++ " [OPTIONS] [COMMAND]"
  lists :=
    let helpAbout :=
      if full then "Print help (see a summary with '-h')" else "Print help (see more with '--help')"
    ("Commands", commandNames.map fun name => { label := name, about := commandAbout name })
      :: (mainGrammar helpAbout).lists
  footer := some footer

def commandPage (program name : String) : HelpPage where
  about := commandAbout name
  usage :=
    program ++ " " ++ name
      ++ (match name with
        | "replay" => " [OPTIONS] <FILE>"
        | "help" => " [COMMAND]..."
        | _ => " [OPTIONS]")
  lists :=
    match name with
    | "check" => checkGrammar.lists
    | "config" => configGrammar.lists
    | "generate-testdata" => generateGrammar.lists
    | "replay" => replayGrammar.lists
    | _ => [("Arguments", [{ label := "[COMMAND]...", about := "Print help for the subcommand(s)" }])]

/-- The page on the program or on one of its commands. -/
def helpText (program footer : String) (command : Option String) (full : Bool) : String :=
  match command with
  | some name => (commandPage program name).render false
  | none => (mainPage program footer full).render full

end UsageWatch.CommandLine
