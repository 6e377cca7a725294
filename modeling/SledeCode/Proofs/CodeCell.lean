import SledeCode.Cell
import SledeCode.Proofs.InstructionWord
import SledeCode.Proofs.LineShape

namespace SledeCode

namespace Mnemonic

theorem ofName?_name (m : Mnemonic) : ofName? m.name = some m := by
  cases m with
  | sett => rfl
  | plain op => cases op <;> rfl
  | address op => cases op <;> rfl
  | memory op => cases op <;> rfl
  | stream op => cases op <;> rfl
  | alu op => cases op <;> rfl
  | compare op => cases op <;> rfl

theorem ofName?_eq_some_iff {t : Text} {m : Mnemonic} : ofName? t = some m ↔ t = m.name := by
  constructor
  · intro found
    have same := List.find?_some (p := fun m : Mnemonic => m.name == t) found
    exact (beq_iff_eq.mp same).symm
  · rintro rfl
    exact ofName?_name m

theorem name_inj {m n : Mnemonic} (same : m.name = n.name) : m = n :=
  Option.some.inj ((ofName?_name m).symm.trans (ofName?_eq_some_iff.mpr same))

theorem name_isWord (m : Mnemonic) : Text.IsWord m.name := by
  have listed : ∀ m ∈ all, m.name ≠ [] ∧ m.name.all Text.isWordChar = true := by decide
  obtain ⟨nonempty, chars⟩ := listed m (List.mem_of_find?_eq_some (ofName?_name m))
  exact ⟨nonempty, List.all_eq_true.mp chars⟩

theorem name_ne_dataWord (m : Mnemonic) : m.name ≠ dataWord := by
  have listed : ∀ m ∈ all, m.name ≠ dataWord := by decide
  exact listed m (List.mem_of_find?_eq_some (ofName?_name m))

end Mnemonic

theorem Instruction.text_eq (i : Instruction) : i.text = Statement.text ⟨i.mnemonic.name, i.operands⟩ := by
  unfold Instruction.text Statement.text
  split
  · rename_i none
    rw [if_pos none]
  · rename_i some
    rw [if_neg some]

theorem Instruction.upTo_text (i : Instruction) : Text.upTo ' ' i.text = i.mnemonic.name := by
  have spaceless : ' ' ∉ i.mnemonic.name := i.mnemonic.name_isWord.not_mem (by decide)
  unfold Instruction.text
  split
  · exact Text.upTo_of_not_mem spaceless
  · exact Text.upTo_append_cons spaceless _

namespace Cell

theorem decode_of_some {opcode param : UInt8} {i : Instruction}
    (found : Instruction.ofBytes? opcode param = some i) (address : Int) :
    decode opcode.toNat param.toNat address =
      ⟨opcode.toNat, param.toNat, i.text, true, [], address, 2⟩ := by
  simp [decode, found]

theorem decode_of_none {opcode param : UInt8} (missing : Instruction.ofBytes? opcode param = none)
    (address : Int) :
    decode opcode.toNat param.toNat address =
      ⟨opcode.toNat, param.toNat, undecoded, false, refusal opcode param, address, 2⟩ := by
  simp [decode, missing]

@[simp] theorem word_decode (opcode param : UInt8) (address : Int) :
    (decode opcode.toNat param.toNat address).word = Word.ofBytes opcode param := by
  rw [← Word.ofParts_toNat]
  cases found : Instruction.ofBytes? opcode param with
  | none => rw [decode_of_none found, word]
  | some i => rw [decode_of_some found, word]

theorem family?_decode {opcode param : UInt8} {i : Instruction}
    (found : Instruction.ofBytes? opcode param = some i) (address : Int) :
    (decode opcode.toNat param.toNat address).family? = some i.family := by
  obtain ⟨fields, _⟩ := Instruction.ofBytes?_eq_some_iff.mp found
  have number := i.family.number_lt
  rw [family?, word_decode, OperationClass.ofNumber?_eq_some_iff, Word.operationClass, Word.ofBytes]
  omega

theorem mnemonic_of_text {c : Cell} {i : Instruction} (valid : c.valid = true) (text : c.text = i.text) :
    c.mnemonic = i.mnemonic.name := by
  rw [mnemonic, if_pos valid, text, i.upTo_text]

theorem mnemonic_decode {opcode param : UInt8} {i : Instruction}
    (found : Instruction.ofBytes? opcode param = some i) (address : Int) :
    (decode opcode.toNat param.toNat address).mnemonic = i.mnemonic.name := by
  rw [decode_of_some found]
  exact mnemonic_of_text rfl rfl

theorem isCode_decode {opcode param : UInt8} {i : Instruction}
    (found : Instruction.ofBytes? opcode param = some i) (address : Int) :
    (decode opcode.toNat param.toNat address).isCode =
      (!i.family.leavesTopNibble || Word.argument2 (Word.ofBytes opcode param) == 0) := by
  have valid : (decode opcode.toNat param.toNat address).valid = true := by rw [decode_of_some found]
  rw [isCode, valid, family?_decode found, word_decode, Bool.true_and]
  cases i.family <;> rfl

/-- The words shown as code are the words of instructions: where the highest nibble says
nothing it has to be zero, and then reading has lost no bit. -/
theorem isCode_decode_iff {opcode param : UInt8} {address : Int} :
    (decode opcode.toNat param.toNat address).isCode = true ↔
      ∃ i : Instruction, i.bytes = [opcode, param] := by
  constructor
  · intro code
    have paramBound := param.toNat_lt
    have opcodeBound := opcode.toNat_lt
    cases found : Instruction.ofBytes? opcode param with
    | none => simp [isCode, decode_of_none found] at code
    | some i =>
      obtain ⟨opcodeFields, paramFields⟩ := Instruction.ofBytes?_eq_some_iff.mp found
      refine ⟨i, Instruction.bytes_eq_pair_iff.mpr ⟨opcodeFields, ?_⟩⟩
      rw [isCode_decode found] at code
      by_cases top : i.family.leavesTopNibble = true
      · simp only [top, Bool.not_true, Bool.false_or, beq_iff_eq, Word.argument2, Word.ofBytes] at code
        rw [if_pos top] at paramFields
        omega
      · rwa [if_neg top] at paramFields
  · rintro ⟨i, same⟩
    rw [isCode_decode (Instruction.ofBytes?_of_bytes same), ← Instruction.word_of_bytes same,
      Instruction.argument2_word]
    by_cases top : i.family.leavesTopNibble = true
    · have small := i.parameter_lt_of_leavesTopNibble top
      simp only [top, Bool.not_true, Bool.false_or, beq_iff_eq]
      omega
    · simp [top]

end Cell

end SledeCode
