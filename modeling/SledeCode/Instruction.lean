import SledeCode.Mnemonic
import SledeCode.Operand
import SledeCode.Word

namespace SledeCode

/-- An instruction with its operands. -/
inductive Instruction where
  | plain (op : PlainOp)
  | setValue (dest : Register) (value : UInt8)
  | setRegister (dest source : Register)
  | address (op : AddressOp) (target : Address)
  | memory (op : MemoryOp) (register : Register)
  | stream (op : StreamOp) (register : Register)
  | alu (op : AluOp) (left right : Register)
  | compare (op : CompareOp) (left right : Register)
deriving DecidableEq, Repr

namespace Instruction

def mnemonic : Instruction → Mnemonic
  | .plain op => .plain op
  | .setValue _ _ => .sett
  | .setRegister _ _ => .sett
  | .address op _ => .address op
  | .memory op _ => .memory op
  | .stream op _ => .stream op
  | .alu op _ _ => .alu op
  | .compare op _ _ => .compare op

/-- The 16-bit word of an instruction; bits that it does not use are zero. -/
def word : Instruction → Int
  | .plain op => op.operationClass.number
  | .setValue dest value =>
    Word.ofNibblesByte OperationClass.setImmediate.number dest.val value.toNat
  | .setRegister dest source =>
    Word.ofNibblesByte OperationClass.setRegister.number dest.val source.val
  | .address op target => Word.ofNibbleAddress op.operationClass.number target.val
  | .memory op register =>
    Word.ofNibbles OperationClass.loadStore.number op.code register.val 0
  | .stream op register => Word.ofNibbles OperationClass.io.number op.code register.val 0
  | .alu op left right => Word.ofNibbles OperationClass.alu.number op.code left.val right.val
  | .compare op left right =>
    Word.ofNibbles OperationClass.compare.number op.code left.val right.val

def bytes (i : Instruction) : Bytes := Word.bytes i.word

/-- The register in the low four bits. -/
def registerOf (n : Nat) : Register := ⟨n % 16, Nat.mod_lt _ (by decide)⟩

/-- Reads an instruction from its two bytes. Bits that the instruction does not
use are ignored, except where there are no operands at all. -/
def ofBytes? (opcode param : UInt8) : Option Instruction :=
  let operation := opcode.toNat / 16
  let address := operation + 16 * param.toNat
  let first := registerOf param.toNat
  let second := registerOf (param.toNat / 16)
  let plain (op : PlainOp) : Option Instruction := if address = 0 then some (.plain op) else none
  let target (op : AddressOp) : Option Instruction :=
    some (.address op ⟨address % 4096, Nat.mod_lt _ (by decide)⟩)
  match OperationClass.ofNumber? (opcode.toNat % 16) with
  | none => none
  | some .halt => plain .stopp
  | some .setImmediate => some (.setValue (registerOf operation) param)
  | some .setRegister => some (.setRegister (registerOf operation) first)
  | some .locate => target .finn
  | some .loadStore => (MemoryOp.ofCode? operation).map fun op => .memory op first
  | some .alu => (AluOp.ofCode? operation).map fun op => .alu op first second
  | some .io => (StreamOp.ofCode? operation).map fun op => .stream op first
  | some .compare => (CompareOp.ofCode? operation).map fun op => .compare op first second
  | some .jump => target .hopp
  | some .branch => target .bhopp
  | some .call => target .tur
  | some .ret => plain .retur
  | some .nop => plain .nope

def registerText (r : Register) : Text := 'r' :: Text.decimal r.val

/-- The label that stands for an address operand. -/
def targetLabel (op : AddressOp) (target : Address) : Text :=
  op.labelLetter :: Text.hexField 3 target.val

/-- The operands as they are written. -/
def operands : Instruction → List Text
  | .plain _ => []
  | .setValue dest value => [registerText dest, Text.decimal value.toNat]
  | .setRegister dest source => [registerText dest, registerText source]
  | .address op target => [targetLabel op target]
  | .memory _ register => [registerText register]
  | .stream _ register => [registerText register]
  | .alu _ left right => [registerText left, registerText right]
  | .compare _ left right => [registerText left, registerText right]

/-- The instruction as a line of source. -/
def text (i : Instruction) : Text :=
  match i.operands with
  | [] => i.mnemonic.name
  | operands => i.mnemonic.name ++ ' ' :: Text.commaList operands

end Instruction

end SledeCode
