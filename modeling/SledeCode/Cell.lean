import SledeCode.Failure
import SledeCode.Instruction

namespace SledeCode

/-- One word of memory as it is shown. The numbers need not fit a word, since
a cell can also be put together by hand. -/
structure Cell where
  opcode : Int
  param : Int
  text : Text
  valid : Bool
  /-- Why the word is no instruction; empty if it is one. -/
  error : Text
  address : Int
  /-- The bytes that the word takes: one for a lone byte at the end. -/
  size : Int
deriving DecidableEq, Repr

namespace Cell

/-- The text of a cell that is no instruction. -/
def undecoded : Text := "; NOT DECODED".toList

/-- Why two bytes are no instruction. -/
def refusal (opcode param : UInt8) : Text :=
  let number := opcode.toNat % 16
  match OperationClass.ofNumber? number with
  | some .halt | some .ret | some .nop =>
    "Unexpected operand bits in word 0x".toList ++ Text.hexField 4 (Word.ofBytes opcode param) ++
      " (operationClass 0x".toList ++ Text.hexUpper number ++ " takes no arguments)".toList
  | _ =>
    "Unknown operation [".toList ++ Text.decimal (opcode.toNat / 16) ++
      "] in operationClass 0x".toList ++ Text.hexUpper number

/-- The cell of two bytes; of other numbers only the low byte counts. -/
def decode (opcode param address : Int) : Cell :=
  let low := Word.lowByte opcode
  let high := Word.lowByte param
  match Instruction.ofBytes? low high with
  | some i => ⟨low.toNat, high.toNat, i.text, true, [], address, 2⟩
  | none => ⟨low.toNat, high.toNat, undecoded, false, refusal low high, address, 2⟩

/-- The cell of a byte with no second one behind it. -/
def lone (opcode : UInt8) (address : Int) : Cell :=
  ⟨opcode.toNat, 0, undecoded, false, "incomplete word".toList, address, 1⟩

def word (c : Cell) : Int := Word.ofParts c.opcode c.param

def family? (c : Cell) : Option OperationClass :=
  OperationClass.ofNumber? (Word.operationClass c.word).toNat

/-- The first word of the text; nothing for an invalid cell. -/
def mnemonic (c : Cell) : Text := if c.valid then Text.upTo ' ' c.text else []

def isByte (n : Int) : Bool := 0 ≤ n && n < 256

/-- The bytes that the cell takes. A negative size leaves bytes out from the end. -/
def rawBytes (c : Cell) : Except CellFault Bytes :=
  if isByte c.opcode && isByte c.param then
    .ok (window [Word.lowByte c.opcode, Word.lowByte c.param] 0 c.size)
  else .error .notByte

/-- Whether the text, assembled, gives back this word. A valid word of a class
that leaves its highest nibble unused is data if that nibble is set. -/
def isCode (c : Cell) : Bool :=
  c.valid &&
    match c.family? with
    | some .setRegister | some .loadStore | some .io => Word.argument2 c.word == 0
    | _ => true

/-- The address operand, if the instruction has one. -/
def target? (c : Cell) : Option Int :=
  if c.valid then
    match c.family? with
    | some .locate | some .jump | some .branch | some .call => some (Word.addressField c.word)
    | _ => none
  else none

/-- The address operand as the text writes it. -/
def targetLabel? (c : Cell) : Except CellFault (Option Text) :=
  match c.target?, Text.after? ' ' c.text with
  | none, _ => .ok none
  | some _, some operand => .ok (some operand)
  | some _, none => .error .noOperand

/-- A byte as an operand of a data line. -/
def byteOperand (b : UInt8) : Text := '0' :: 'x' :: Text.hexByte b

/-- The cell as a data line, with the reason in a comment. -/
def dataText (c : Cell) : Except CellFault Text :=
  c.rawBytes.map fun bytes =>
    let reason :=
      if c.error = [] then "unused operand bits set in ".toList ++ Text.inQuotes c.text else c.error
    dataWord ++ ' ' :: Text.commaList (bytes.map byteOperand) ++ " ; ".toList ++ reason

/-- The cell as one line of source, which assembles to the bytes of the cell.
An address operand is written as a number if `literal` asks for it. -/
def sourceText (c : Cell) (literal : Bool) : Except CellFault Text :=
  if !c.isCode then c.dataText
  else
    match literal, c.target? with
    | true, some target => .ok (c.mnemonic ++ " 0x".toList ++ Text.hexField 3 target)
    | _, _ => .ok c.text

/-- The name of a cell at an address: `a` for code and `m` for data. -/
def label (c : Cell) (address : Int) : Text :=
  (if c.isCode then 'a' else 'm') :: Text.hexField 3 address

/-- A label line and a source line. -/
def render (c : Cell) (address : Int) : Except CellFault Text :=
  (c.sourceText false).map fun source => c.label address ++ ":\n".toList ++ source

/-- One line with the address and both bytes. -/
def renderRaw (c : Cell) (address : Int) : Text :=
  "A[".toList ++ Text.hexField 3 address ++ "] | I[".toList ++ Text.hexField 2 c.opcode ++ ' ' ::
    Text.hexField 2 c.param ++ "] ".toList ++
    (if c.valid then c.text
      else dataWord ++ " 0x".toList ++ Text.hexField 2 c.opcode ++ " ; ".toList ++ c.error)

end Cell

end SledeCode
