import SledeCode.Tool.Arguments
import SledeCode.Tool.Session
import SledeCode.Tool.SourceFile

namespace SledeCode.AssembleCommand

def toolName : Text := "s8asm".toList

inductive Choice where
  | output (path : Text)
  | listing (path : Text)
  | strictLabels (on : Bool)
  | legacySizing
  | verbose
  | version
  | help
deriving DecidableEq, Repr

def form? (name : Text) : Option (OptionForm Choice) :=
  [("-o", .valued .output), ("--output", .valued .output),
    ("-l", .valued .listing), ("--listing", .valued .listing),
    ("--strict-labels", .flag (.strictLabels true)),
    ("--no-strict-labels", .flag (.strictLabels false)),
    ("--legacy-data-sizing", .flag .legacySizing),
    ("-v", .flag .verbose), ("--verbose", .flag .verbose),
    ("--version", .flag .version), ("--help", .flag .help)].lookup (String.ofList name)

/-- A command line in order: what to assemble, and how. -/
structure Request where
  input : Path
  output : Option Path
  listing : Option Path
  strictLabels : Option Bool
  legacySizing : Bool
  verbose : Bool
deriving DecidableEq, Repr

/-- The environment chooses what the command line does not. -/
def settings (codecs : Codecs) (r : Request) (e : Environment) : Except Failure (Settings codecs) := do
  let base ← e.settings codecs
  let overrides : Overrides := {
    strictLabels := r.strictLabels
    legacySizing := if r.legacySizing then some true else none
    encodingName := none
    unknown := [] }
  overrides.settings codecs base.toOptions

/-- Where the image goes: to the named file, or beside the source. -/
def imagePath (r : Request) : Path := r.output.getD (r.input.withSuffix ".s8".toList)

/-- A line that is shown only if it is asked for. -/
def say (h : Host) (r : Request) (t : Text) : Command Unit :=
  if r.verbose then Command.echoLine h .output t else pure ()

def steps (codecs : Codecs) (h : Host) (r : Request) (e : Environment) : Command Unit := do
  let s ← Command.perform r.verbose (Run.ofOutcome (settings codecs r e))
  say h r ("Assembling ".toList ++ r.input.text ++ "...".toList)
  let p ← Command.perform r.verbose (SourceFile.assemble h s (← get).store r.input)
  let target := imagePath r
  Command.change r.verbose fun store => SourceFile.writeImage h store p target target.text
  say h r ("Wrote ".toList ++ Text.decimal p.image.length ++ " bytes to ".toList ++ target.text)
  match r.listing with
  | none => pure ()
  | some path => do
    Command.writeFile h path (Utf8.encode p.listing)
    say h r ("Wrote listing to ".toList ++ path.text)
  say h r ("Assembly complete: ".toList ++ Text.decimal p.entries.length ++ " instructions, ".toList ++
    Text.decimal p.body.length ++ " bytes".toList)
  say h r ("Defined ".toList ++ Text.decimal p.labels.names.length ++ " labels".toList)

def execute (codecs : Codecs) (h : Host) (store : FileStore) (e : Environment) (r : Request) : Outcome :=
  (steps codecs h r e).finish h store r.verbose "Assembly".toList

def Choice.output? : Choice → Option Text
  | .output path => some path
  | _ => none

def Choice.listing? : Choice → Option Text
  | .listing path => some path
  | _ => none

def Choice.strictLabels? : Choice → Option Bool
  | .strictLabels on => some on
  | _ => none

/-- Reads the command line against the files. The input is a file that exists,
and no output is a directory. -/
def request? (store : FileStore) (a : Arguments Choice) : Option Request :=
  match a.operands with
  | [input] =>
    let output := a.last? Choice.output?
    let listing := a.last? Choice.listing?
    if store.leadsToFile input && !output.any store.leadsToDirectory &&
        !listing.any store.leadsToDirectory then
      some {
        input := Path.read input
        output := output.map Path.read
        listing := listing.map Path.read
        strictLabels := a.last? Choice.strictLabels?
        legacySizing := a.options.contains .legacySizing
        verbose := a.options.contains .verbose }
    else none
  | _ => none

/-- The paths that a command line may read or write. -/
def pathsNamed (args : List Text) : List Text :=
  match Arguments.read form? args with
  | none => []
  | some a =>
    let images := a.operands.map fun input => ((Path.read input).withSuffix ".s8".toList).text
    a.operands ++ images ++ a.options.filterMap Choice.output? ++ a.options.filterMap Choice.listing?

/-- The whole command. Asking for the version or for help comes before
everything else that a well-formed command line asks for. -/
def run (codecs : Codecs) (h : Host) (store : FileStore) (e : Environment) (args : List Text) : Response :=
  match Arguments.read form? args with
  | none => .usage
  | some a =>
    match a.options.find? fun c => c = .version || c = .help with
    | some .version => .version toolName store
    | some _ => .help
    | none =>
      match request? store a with
      | none => .usage
      | some r => .outcome (execute codecs h store e r)

end SledeCode.AssembleCommand
