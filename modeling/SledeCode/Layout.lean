import SledeCode.LabelTable
import SledeCode.Run
import SledeCode.Settings
import SledeCode.Statement

namespace SledeCode

/-- A line of code or data, with the address where its first byte is expected. -/
structure Record where
  line : Nat
  address : Nat
  raw : Text
deriving DecidableEq, Repr

namespace Layout

variable {codecs : Codecs}

/-- How many bytes an operand of a data line takes. A malformed one counts as one byte. -/
def argSize (s : Settings codecs) (arg : Text) : Nat :=
  match Operand.string? arg with
  | some t => s.size t
  | none => 1

def dataSize (s : Settings codecs) (args : List Text) : Nat := total (args.map (argSize s))

/-- The size of an operand under any name of a codec, which matters only if the
operand is a string. -/
def argSizeIn (find : Encoding.Registry) (name arg : Text) : Except Encoding.Fault Nat :=
  match Operand.string? arg with
  | some t => do
    let codec ← find name
    (codec.sizeReplacing t).mapError (.refused name)
  | none => .ok 1

def dataSizeIn (find : Encoding.Registry) (name : Text) (args : List Text) :
    Except Encoding.Fault Nat :=
  (args.mapM (argSizeIn find name)).map total

def dataSizeNamed (encodingName : Text) (args : List Text) : Except Encoding.Fault Nat :=
  dataSizeIn Encoding.registry encodingName args

/-- How far a trimmed line moves the address on. -/
def advance (s : Settings codecs) (line : Text) : Nat :=
  match Line.kind line with
  | .instruction => 2
  | .data =>
    let args := (Statement.read line).args
    if s.legacySizing then args.length else dataSize s args
  | _ => 0

/-- What a line adds to the layout. -/
inductive Item where
  | label (name : Text) (address line : Nat)
  | record (r : Record)
deriving DecidableEq, Repr

def items (line : Text) (number address : Nat) : List Item :=
  match Line.kind line with
  | .label => [.label (Line.labelName line) address number]
  | .data => [.record ⟨number, address, line⟩]
  | .instruction => [.record ⟨number, address, line⟩]
  | _ => []

/-- Goes through lines, the first of which has the given number and address. -/
def scan (s : Settings codecs) (number address : Nat) : List Text → List Item
  | [] => []
  | raw :: rest =>
    let line := Text.trim raw
    items line number address ++ scan s (number + 1) (address + advance s line) rest

def Item.binding? : Item → Option (Text × Int)
  | .label name address _ => some (name, address)
  | .record _ => none

def Item.record? : Item → Option Record
  | .label .. => none
  | .record r => some r

/-- The notes on the labels among the items, given the bindings before them. -/
def itemNotes : LabelTable → List Item → List Note
  | _, [] => []
  | t, .label name address line :: rest =>
    t.bindNotes name address ++ .labelBound name address line ::
      itemNotes (t.bind name address) rest
  | t, .record _ :: rest => itemNotes t rest

end Layout

/-- The addresses of a source: where each line of code or data goes, and where
each label stands. -/
structure Layout where
  records : List Record
  labels : LabelTable
  size : Nat
deriving DecidableEq, Repr

namespace Layout

variable {codecs : Codecs}

def ofSource (s : Settings codecs) (source : Text) : Layout :=
  let found := scan s 1 0 (Text.lines source)
  { records := found.filterMap Item.record?
    labels := ⟨found.filterMap Item.binding?⟩
    size := total ((Text.lines source).map fun raw => advance s (Text.trim raw)) }

/-- The layout with its notes. It never fails. -/
def run (s : Settings codecs) (source : Text) : Run Layout :=
  let layout := ofSource s source
  { notes := itemNotes .empty (scan s 1 0 (Text.lines source)) ++
      [.laidOut layout.records.length layout.labels.size layout.size]
    outcome := .ok layout }

end Layout

end SledeCode
