import SledeCode.Run
import SledeCode.Tool.Host
import SledeCode.Tool.Report

namespace SledeCode

/-- The files and the two output streams during a command. -/
structure Session where
  store : FileStore
  output : Text
  errors : Text
deriving DecidableEq, Repr

/-- What a stream has shown. -/
def Session.stream (s : Session) : Stream → Text
  | .output => s.output
  | .errors => s.errors

def Session.append (s : Session) (shown : Text) : Stream → Session
  | .output => { s with output := s.output ++ shown }
  | .errors => { s with errors := s.errors ++ shown }

/-- The end of a command. -/
structure Outcome where
  exit : Nat
  session : Session
deriving DecidableEq, Repr

/-- Steps of a command that may fail; what was done before a failure stays done. -/
abbrev Command := ExceptT Failure (StateM Session)

namespace Command

/-- With `verbose` every note is shown behind its severity, and otherwise only
the text of warnings. -/
def shown (verbose : Bool) (notes : List Note) : Text :=
  notes.flatMap fun n =>
    if verbose then n.labelled ++ ['\n']
    else if n.severity = .warning then n.text ++ ['\n']
    else []

/-- Shows a text on a stream, as far as the system does. -/
def echo (h : Host) (stream : Stream) (t : Text) : Command Unit := do
  let s ← get
  let answer := h.showing stream (s.stream stream) t
  set (s.append answer.shown stream)
  match answer.fault with
  | none => pure ()
  | some message => throw (.stream message)

def echoLine (h : Host) (stream : Stream) (t : Text) : Command Unit := echo h stream (t ++ ['\n'])

/-- Shows the notes of a run and goes on with its result. -/
def perform {α : Type} (verbose : Bool) (run : Run α) : Command α := do
  modify fun s => { s with errors := s.errors ++ shown verbose run.notes }
  match run.outcome with
  | .ok a => pure a
  | .error failure => throw failure

def readFile (h : Host) (path : Path) : Command Bytes := do
  match h.read (← get).store path with
  | .ok content => pure content
  | .error fault => throw (.file fault)

/-- Performs a run that changes the files, whether or not it fails. -/
def change (verbose : Bool) (run : FileStore → Run Unit × FileStore) : Command Unit := do
  let (done, store) := run (← get).store
  modify fun s => { s with store := store }
  perform verbose done

def writeFile (h : Host) (path : Path) (content : Bytes) : Command Unit :=
  change false fun store =>
    let (done, after) := h.write store path content
    (.ofOutcome (done.mapError .file), after)

/-- Runs the steps; a failure is reported on the error stream. Where not even that
is possible, there is an exit code for it. -/
def finish (h : Host) (steps : Command Unit) (store : FileStore) (verbose : Bool) (task : Text) : Outcome :=
  match steps.run.run ⟨store, [], []⟩ with
  | (.ok (), s) => ⟨0, s⟩
  | (.error failure, s) =>
    let report := failure.trouble.report failure.message verbose task
    let answer := h.showing .errors s.errors report.text
    ⟨if answer.fault.isNone then report.exit else 1, s.append answer.shown .errors⟩

end Command

/-- What a command line leads to. -/
inductive Response where
  /-- The command line is not in order. -/
  | usage
  /-- Help is asked for. -/
  | help
  | outcome (o : Outcome)

/-- The answer of a tool that is asked for its version. -/
def Response.version (tool : Text) (store : FileStore) : Response :=
  .outcome ⟨0, ⟨store, tool ++ ", version 1.0.0\n".toList, []⟩⟩

/-- Whether the text of a path leads to a directory. -/
def FileStore.leadsToDirectory (s : FileStore) (raw : Text) : Bool :=
  match s.locate raw with
  | .directory => true
  | _ => false

/-- Whether the text of a path leads to a file. -/
def FileStore.leadsToFile (s : FileStore) (raw : Text) : Bool :=
  match s.locate raw with
  | .file .. => true
  | _ => false

end SledeCode
