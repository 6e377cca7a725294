import SledeCode.Proofs.EmissionOutcome
import SledeCode.Proofs.NumeralReading

namespace SledeCode

variable {codecs : Codecs}

namespace Operand

/-- The text names the register with this number. -/
def IsRegister (t : Text) (n : Int) : Prop := ∃ r : Register, register? t = .ok (some r) ∧ (r.val : Int) = n

/-- The text stands for this address: as a number, or as a label bound to it. -/
def IsAddress (labels : LabelTable) (t : Text) (n : Int) : Prop :=
  value? t = .ok (some n) ∨ value? t = .ok none ∧ labels.find? t = some n

end Operand

/-- Each field of the word that an operand is packed into holds what the operand stands for. -/
def Word.HoldsOperands (labels : LabelTable) (w : Int) : Mnemonic → List Text → Prop
  | .plain _, [] => Word.addressField w = 0
  | .sett, [dest, source] =>
    Operand.IsRegister dest (Word.operation w) ∧
      (Word.operationClass w = OperationClass.setImmediate.number ∧
          Operand.value? source = .ok (some (Word.value w)) ∨
        Word.operationClass w = OperationClass.setRegister.number ∧
          Operand.value? source = .ok none ∧ Operand.IsRegister source (Word.argument1 w))
  | .address _, [target] => Operand.IsAddress labels target (Word.addressField w)
  | .memory _, [operand] => Operand.IsRegister operand (Word.argument1 w)
  | .stream _, [operand] => Operand.IsRegister operand (Word.argument1 w)
  | .alu _, [left, right] =>
    Operand.IsRegister left (Word.argument1 w) ∧ Operand.IsRegister right (Word.argument2 w)
  | .compare _, [left, right] =>
    Operand.IsRegister left (Word.argument1 w) ∧ Operand.IsRegister right (Word.argument2 w)
  | _, _ => False

namespace Emission

theorem Denotes.holdsOperands {e : Emission codecs} {m : Mnemonic} {args : List Text} {i : Instruction}
    (denotes : Denotes e m args i) (strict : e.options.strictLabels = true) :
    Word.HoldsOperands e.labels i.word m args := by
  cases denotes with
  | plain op => rw [Word.HoldsOperands, Instruction.addressField_word]; rfl
  | @setValue dest source r value destRead valueRead =>
    refine ⟨⟨r, destRead, ?_⟩, Or.inl ⟨Instruction.operationClass_word _, ?_⟩⟩
    · rw [Instruction.operation_word]; rfl
    · rw [Instruction.value_word]; exact valueRead
  | @setRegister dest source r other destRead valueRead sourceRead =>
    refine ⟨⟨r, destRead, ?_⟩, Or.inr ⟨Instruction.operationClass_word _, valueRead, other, sourceRead, ?_⟩⟩
    · rw [Instruction.operation_word]; rfl
    · rw [Instruction.argument1_word]; simp only [Instruction.parameter]; omega
  | number op read =>
    refine Or.inl ?_
    rw [Instruction.addressField_address, read]
  | label op read bound =>
    refine Or.inr ⟨read, ?_⟩
    rw [Instruction.addressField_address, bound]
  | unbound op read missing lenient =>
    rw [strict] at lenient
    exact Bool.noConfusion lenient
  | @memory op operand r read =>
    refine ⟨r, read, ?_⟩
    rw [Instruction.argument1_word]; simp only [Instruction.parameter]; omega
  | @stream op operand r read =>
    refine ⟨r, read, ?_⟩
    rw [Instruction.argument1_word]; simp only [Instruction.parameter]; omega
  | @alu op first second left right leftRead rightRead =>
    refine ⟨⟨left, leftRead, ?_⟩, ⟨right, rightRead, ?_⟩⟩
    · rw [Instruction.argument1_word]; simp only [Instruction.parameter]; omega
    · rw [Instruction.argument2_word]; simp only [Instruction.parameter]; omega
  | @compare op first second left right leftRead rightRead =>
    refine ⟨⟨left, leftRead, ?_⟩, ⟨right, rightRead, ?_⟩⟩
    · rw [Instruction.argument1_word]; simp only [Instruction.parameter]; omega
    · rw [Instruction.argument2_word]; simp only [Instruction.parameter]; omega

theorem denotes_number (e : Emission codecs) (op : AddressOp) (a : Address) :
    Denotes e (.address op) ['0' :: 'x' :: Text.hexField 3 a.val] (.address op a) := by
  rw [Text.hexField_natCast]
  exact .number op (Operand.value?_hex 3 a.val)

/-- The operands that an instruction is shown with stand for that instruction again, as long as
the label of an address operand is bound to the address. -/
theorem denotes_operands {e : Emission codecs} {i : Instruction}
    (bound : ∀ op a, i = .address op a →
      e.labels.find? (Instruction.targetLabel op a) = some (a.val : Int)) :
    Denotes e i.mnemonic i.operands i := by
  have registerRead (r : Register) : Operand.register? (Instruction.registerText r) = .ok (some r) :=
    Operand.register?_registerText r
  have notNumber (r : Register) : Operand.value? (Instruction.registerText r) = .ok none :=
    Operand.value?_of_letter (by decide) (by decide) (by decide)
  cases i with
  | plain op => exact .plain op
  | setValue dest value =>
    have small := value.toNat_lt
    exact .setValue (registerRead dest) (Operand.value?_decimal (Operand.length_decimal_le (by omega)))
  | setRegister dest source => exact .setRegister (registerRead dest) (notNumber source) (registerRead source)
  | address op a =>
    have letter : Operand.value? (Instruction.targetLabel op a) = .ok none := by
      cases op <;> exact Operand.value?_of_letter (by decide) (by decide) (by decide)
    exact .label op letter (bound op a rfl)
  | memory op r => exact .memory op (registerRead r)
  | stream op r => exact .stream op (registerRead r)
  | alu op left right => exact .alu op (registerRead left) (registerRead right)
  | compare op left right => exact .compare op (registerRead left) (registerRead right)

theorem exists_denotes (e : Emission codecs) (i : Instruction) : ∃ args, Denotes e i.mnemonic args i := by
  cases i with
  | address op a => exact ⟨_, denotes_number e op a⟩
  | _ => exact ⟨_, denotes_operands (fun op a same => nomatch same)⟩

/-- A word is shown as code exactly if some statement other than data encodes to it, and what is
encoded under strict labels is shown with the mnemonic of the statement and with every operand
in its field, none of its bits lost. -/
theorem isCode_iff_encoded :
    (∀ (opcode param : UInt8) (address : Int),
      (Cell.decode opcode.toNat param.toNat address).isCode = true ↔
        ∃ (codecs : Codecs) (settings : Settings codecs) (labels : LabelTable) (s : Statement), s.mnemonic ≠ dataWord ∧
          (encode (settings.emission labels) s).outcome = .ok [opcode, param]) ∧
    ∀ (e : Emission codecs) (s : Statement) (bytes : Bytes), e.options.strictLabels = true →
      s.mnemonic ≠ dataWord → (e.encode s).outcome = .ok bytes →
      ∃ opcode param m, bytes = [opcode, param] ∧ s.mnemonic = m.name ∧ ∀ address : Int,
        let cell := Cell.decode opcode.toNat param.toNat address
        cell.valid = true ∧ cell.isCode = true ∧ cell.mnemonic = s.mnemonic ∧
          Word.HoldsOperands e.labels cell.word m s.args := by
  constructor
  · intro opcode param address
    rw [Cell.isCode_decode_iff]
    constructor
    · rintro ⟨i, same⟩
      obtain ⟨args, denotes⟩ := exists_denotes (Settings.standard.emission .empty) i
      refine ⟨_, .standard, .empty, ⟨i.mnemonic.name, args⟩, i.mnemonic.name_ne_dataWord, ?_⟩
      exact (encode_eq_ok_iff i.mnemonic.name_ne_dataWord).mpr ⟨_, i, rfl, denotes, same.symm⟩
    · rintro ⟨_, settings, labels, s, other, done⟩
      obtain ⟨_, i, _, _, same⟩ := (encode_eq_ok_iff other).mp done
      exact ⟨i, same.symm⟩
  · intro e s bytes strict other done
    obtain ⟨m, i, name, denotes, rfl⟩ := (encode_eq_ok_iff other).mp done
    obtain ⟨opcode, param, same⟩ := i.exists_bytes
    refine ⟨opcode, param, m, same, name, fun address => ?_⟩
    have found := Instruction.ofBytes?_of_bytes same
    refine ⟨?_, Cell.isCode_decode_iff.mpr ⟨i, same⟩, ?_, ?_⟩
    · rw [Cell.decode_of_some found]
    · rw [Cell.mnemonic_decode found, name, denotes.mnemonic_eq]
    · rw [Cell.word_decode, ← Instruction.word_of_bytes same]
      exact denotes.holdsOperands strict

/-- A register and a number in unusual spellings: the word holds their values. -/
theorem isCode_iff_encoded_spellings :
    let e : Emission .standard := ⟨.empty, .standard⟩
    let s : Statement := ⟨"SETT".toList, ["r0x0F".toList, "+003".toList]⟩
    (e.encode s).outcome = .ok [0xF1, 3] ∧
      ∃ (opcode param : UInt8) (m : Mnemonic), [0xF1, 3] = [opcode, param] ∧ s.mnemonic = m.name ∧
        ∀ address : Int,
        let cell := Cell.decode opcode.toNat param.toNat address
        cell.valid = true ∧ cell.isCode = true ∧ cell.mnemonic = s.mnemonic ∧
          Word.HoldsOperands e.labels cell.word m s.args := by
  intro e s
  have done : (e.encode s).outcome = .ok [0xF1, 3] := by rfl
  exact ⟨done, isCode_iff_encoded.2 _ _ _ rfl (by decide) done⟩

end Emission

end SledeCode
