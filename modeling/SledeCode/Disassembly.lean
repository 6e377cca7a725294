import SledeCode.Cell
import SledeCode.Run

namespace SledeCode.Disassembly

/-- The byte at an index, a negative one counted from the end. -/
def byteAt (data : Bytes) (index : Int) : Except CellFault UInt8 :=
  let place := if index < 0 then index + data.length else index
  if place < 0 then .error .noSuchByte
  else
    match data[place.toNat]? with
    | some b => .ok b
    | none => .error .noSuchByte

/-- The cell at an offset. The last byte of the data is a cell of its own. -/
def cellAt (data : Bytes) (offset address : Int) : Except CellFault Cell :=
  if data.length ≤ offset then .error (.pastEnd offset data.length)
  else if data.length ≤ offset + 1 then do
    let opcode ← byteAt data offset
    .ok (.lone opcode address)
  else do
    let opcode ← byteAt data offset
    let param ← byteAt data (offset + 1)
    .ok (.decode opcode.toNat param.toNat address)

/-- The cells of a body, two bytes each, the first at the given address. No
more than `limit` cells are made if there is a limit. -/
def cells (address : Int) (limit : Option Int) : Bytes → List Cell
  | [] => []
  | [b] => if limit.any (· ≤ 0) then [] else [.lone b address]
  | b :: c :: rest =>
    if limit.any (· ≤ 0) then []
    else .decode b.toNat c.toNat address :: cells (address + 2) (limit.map (· - 1)) rest

/-- The body of an image, with a note on its header. -/
def bodyOf (data : Bytes) : Run Bytes :=
  match Header.remove data with
  | .ok body => ⟨[.headerFound body.length], .ok body⟩
  | .error (.tooShort bytes) => ⟨[.headerTooShort bytes], .error (.header (.tooShort bytes))⟩
  | .error (.wrongMagic start) => ⟨[.headerWrong start], .error (.header (.wrongMagic start))⟩

def imageCells (image : Bytes) (limit : Option Int) : Run (List Cell) := do
  let body ← bodyOf image
  pure (cells 0 limit body)

/-- Whether an address is that of one of the cells. -/
def isStart (cs : List Cell) (address : Int) : Bool := cs.any fun c => c.address == address

/-- Every address operand that is the address of a cell, with its label. -/
def references (starts : Int → Bool) : List Cell → Except CellFault (List (Int × Text))
  | [] => .ok []
  | c :: rest =>
    match c.target? with
    | some target =>
      if starts target then do
        let label ← c.targetLabel?
        let others ← references starts rest
        .ok ((target, label.getD []) :: others)
      else references starts rest
    | none => references starts rest

/-- The labels by which an address is referred to, each once. -/
def labelsOf (refs : List (Int × Text)) (address : Int) : List Text :=
  ((refs.filter fun r => r.1 == address).map (·.2)).eraseDups

def labelLine (name : Text) : Text := name ++ [':']

/-- The lines of a cell: its own label, the other labels that refer to it, and
its source. A target without a label is written as a number. -/
def cellLines (starts : Int → Bool) (refs : List (Int × Text)) (c : Cell) :
    Except CellFault (List Text) := do
  let own := c.label c.address
  let others := (labelsOf refs c.address).filter (· != own)
  let source ← c.sourceText (c.target?.any fun target => !starts target)
  .ok ((own :: others).map labelLine ++ [source])

def linesOf (starts : Int → Bool) (refs : List (Int × Text)) : List Cell → Except CellFault (List Text)
  | [] => .ok []
  | c :: rest => do
    let lines ← cellLines starts refs c
    let others ← linesOf starts refs rest
    .ok (lines ++ others)

/-- The cells as source that can be assembled again. -/
def sourceLines (cs : List Cell) : Except CellFault (List Text) := do
  let refs ← references (isStart cs) cs
  linesOf (isStart cs) refs cs

/-- The body as source, or with raw bytes one line per cell. -/
def listing (address : Int) (limit : Option Int) (raw : Bool) (data : Bytes) :
    Except CellFault Text :=
  let cs := cells address limit data
  if raw then .ok (Text.unlines (cs.map fun c => c.renderRaw c.address))
  else (sourceLines cs).map Text.unlines

end SledeCode.Disassembly
