import SledeCode.Disassembly
import SledeCode.Text.WholeNumber
import SledeCode.Tool.Arguments
import SledeCode.Tool.Session

namespace SledeCode.DisassembleCommand

def toolName : Text := "s8disasm".toList

inductive Choice where
  | output (path : Text)
  | count (number : Text)
  | raw
  | header (on : Bool)
  | verbose
  | version
  | help
deriving DecidableEq, Repr

def form? (name : Text) : Option (OptionForm Choice) :=
  [("-o", .valued .output), ("--output", .valued .output),
    ("-c", .valued .count), ("--count", .valued .count),
    ("--raw", .flag .raw),
    ("--header", .flag (.header true)), ("--no-header", .flag (.header false)),
    ("-v", .flag .verbose), ("--verbose", .flag .verbose),
    ("--version", .flag .version), ("--help", .flag .help)].lookup (String.ofList name)

def Choice.output? : Choice → Option Text
  | .output path => some path
  | _ => none

def Choice.count? : Choice → Option Text
  | .count number => some number
  | _ => none

def Choice.header? : Choice → Option Bool
  | .header on => some on
  | _ => none

/-- A command line in order: what to disassemble, and how. -/
structure Request where
  input : Path
  output : Option Path
  count : Option Int
  raw : Bool
  header : Bool
  verbose : Bool
deriving DecidableEq, Repr

/-- The lines of a body behind two comment lines and an empty one. -/
def page (name : Text) (size : Nat) (lines : List Text) : Text :=
  Text.unlines (("; Disassembly of ".toList ++ name) ::
    ("; Size: ".toList ++ Text.decimal size ++ " bytes".toList) :: [] :: lines) ++ ['\n']

def lines (raw : Bool) (cs : List Cell) : Except CellFault (List Text) :=
  if raw then .ok (cs.map fun c => c.renderRaw c.address) else Disassembly.sourceLines cs

/-- A line that is shown only if it is asked for. -/
def say (h : Host) (r : Request) (t : Text) : Command Unit :=
  if r.verbose then Command.echoLine h .errors t else pure ()

def steps (h : Host) (r : Request) : Command Unit := do
  let data ← Command.readFile h r.input
  let body ← Command.perform r.verbose (if r.header then Disassembly.bodyOf data else pure data)
  say h r ("Input file: ".toList ++ r.input.text ++ " (".toList ++ Text.decimal data.length ++
    " bytes)".toList)
  let cs := Disassembly.cells 0 r.count body
  let shown ← Command.perform r.verbose (Run.ofOutcome ((lines r.raw cs).mapError .cell))
  let text := page r.input.name body.length shown
  match r.output with
  | some path => do
    Command.writeFile h path (Utf8.encode text)
    say h r ("Output written to: ".toList ++ path.text)
  | none => Command.echo h .output text
  say h r ("Words disassembled: ".toList ++ Text.decimal cs.length ++ " (".toList ++
    Text.decimal (cs.countP fun c => !c.isCode) ++ " shown as data)".toList)

def execute (h : Host) (store : FileStore) (r : Request) : Outcome :=
  (steps h r).finish h store r.verbose "Disassembly".toList

/-- A number of words, which is not negative. -/
def wordCount? (number : Text) : Option Int :=
  (Text.wholeNumber? Operand.digitLimit number).filter fun n => 0 ≤ n

/-- Reads the command line against the files. The input is a file that exists,
the output is no directory, and the count is a number. -/
def request? (store : FileStore) (a : Arguments Choice) : Option Request :=
  match a.operands with
  | [input] =>
    let output := a.last? Choice.output?
    let given := a.last? Choice.count?
    let count := given.bind wordCount?
    if store.leadsToFile input && !output.any store.leadsToDirectory &&
        count.isSome == given.isSome then
      some {
        input := Path.read input
        output := output.map Path.read
        count := count
        raw := a.options.contains .raw
        header := (a.last? Choice.header?).getD true
        verbose := a.options.contains .verbose }
    else none
  | _ => none

/-- The paths that a command line may read or write. -/
def pathsNamed (args : List Text) : List Text :=
  match Arguments.read form? args with
  | none => []
  | some a => a.operands ++ a.options.filterMap Choice.output?

/-- The whole command. Asking for the version or for help comes before
everything else that a well-formed command line asks for. -/
def run (h : Host) (store : FileStore) (args : List Text) : Response :=
  match Arguments.read form? args with
  | none => .usage
  | some a =>
    match a.options.find? fun c => c = .version || c = .help with
    | some .version => .version toolName store
    | some _ => .help
    | none =>
      match request? store a with
      | none => .usage
      | some r => .outcome (execute h store r)

end SledeCode.DisassembleCommand
