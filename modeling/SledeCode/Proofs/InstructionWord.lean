import SledeCode.Instruction

namespace SledeCode

/-- A table that holds every value at its own position is searched by that position. -/
theorem getElem?_eq_some_iff_position {α : Type} {table : List α} {position : α → Nat} {n : Nat} {a : α}
    (placed : ∀ (k : Nat) (bound : k < table.length), k = position table[k])
    (complete : ∀ b, table[position b]? = some b) : table[n]? = some a ↔ n = position a := by
  constructor
  · intro found
    obtain ⟨bound, rfl⟩ := List.getElem?_eq_some_iff.mp found
    exact placed n bound
  · rintro rfl
    exact complete a

theorem OperationClass.ofNumber?_eq_some_iff {n : Nat} {c : OperationClass} :
    ofNumber? n = some c ↔ n = c.number :=
  getElem?_eq_some_iff_position (by decide) (fun c => by cases c <;> rfl)

theorem AluOp.ofCode?_eq_some_iff {n : Nat} {op : AluOp} : ofCode? n = some op ↔ n = op.code :=
  getElem?_eq_some_iff_position (by decide) (fun op => by cases op <;> rfl)

theorem CompareOp.ofCode?_eq_some_iff {n : Nat} {op : CompareOp} : ofCode? n = some op ↔ n = op.code :=
  getElem?_eq_some_iff_position (by decide) (fun op => by cases op <;> rfl)

theorem MemoryOp.ofCode?_eq_some_iff {n : Nat} {op : MemoryOp} : ofCode? n = some op ↔ n = op.code :=
  getElem?_eq_some_iff_position (by decide) (fun op => by cases op <;> rfl)

theorem StreamOp.ofCode?_eq_some_iff {n : Nat} {op : StreamOp} : ofCode? n = some op ↔ n = op.code :=
  getElem?_eq_some_iff_position (by decide) (fun op => by cases op <;> rfl)

theorem OperationClass.number_lt (c : OperationClass) : c.number < 16 := by cases c <;> decide

theorem AluOp.code_lt (op : AluOp) : op.code < 16 := by cases op <;> decide

theorem CompareOp.code_lt (op : CompareOp) : op.code < 16 := by cases op <;> decide

theorem MemoryOp.code_lt (op : MemoryOp) : op.code < 16 := by cases op <;> decide

theorem StreamOp.code_lt (op : StreamOp) : op.code < 16 := by cases op <;> decide

/-- The classes whose instructions say nothing with the highest nibble of the word. -/
def OperationClass.leavesTopNibble : OperationClass → Bool
  | .setRegister | .loadStore | .io => true
  | _ => false

namespace Word

theorem toNat_lowByte (w : Int) : ((lowByte w).toNat : Int) = w % 256 := by
  simp only [lowByte, UInt8.toNat_ofNat']
  omega

@[simp] theorem lowByte_toNat (b : UInt8) : lowByte b.toNat = b := by
  apply UInt8.toNat_inj.mp
  have low := toNat_lowByte b.toNat
  have bound := b.toNat_lt
  omega

theorem bytes_eq_pair_iff {w : Int} (lower : 0 ≤ w) (upper : w < 65536) {opcode param : UInt8} :
    bytes w = [opcode, param] ↔ w = ofBytes opcode param := by
  have low := toNat_lowByte w
  have high := toNat_lowByte (w / 256)
  have opcodeBound := opcode.toNat_lt
  have paramBound := param.toNat_lt
  simp only [bytes, List.cons.injEq, and_true, ← UInt8.toNat_inj, ofBytes]
  omega

/-- Two bytes do not overlap, so joining their bits adds them. -/
theorem ofParts_toNat (opcode param : UInt8) :
    ofParts opcode.toNat param.toNat = ofBytes opcode param := by
  have joined : opcode.toNat ||| 256 * param.toNat = opcode.toNat + 256 * param.toNat := by
    have shifted : 256 * param.toNat + opcode.toNat = 256 * param.toNat ||| opcode.toNat :=
      Nat.two_pow_add_eq_or_of_lt opcode.toNat_lt param.toNat
    rw [Nat.or_comm, ← shifted, Nat.add_comm]
  show Int.ofNat (opcode.toNat ||| 256 * param.toNat) = _
  rw [joined]
  simp [ofBytes]

end Word

namespace Instruction

def family : Instruction → OperationClass
  | .plain op => op.operationClass
  | .setValue _ _ => .setImmediate
  | .setRegister _ _ => .setRegister
  | .address op _ => op.operationClass
  | .memory _ _ => .loadStore
  | .stream _ _ => .io
  | .alu _ _ _ => .alu
  | .compare _ _ _ => .compare

/-- What stands in the high nibble of the opcode byte. -/
def variant : Instruction → Nat
  | .plain _ => 0
  | .setValue dest _ => dest.val
  | .setRegister dest _ => dest.val
  | .address _ target => target.val % 16
  | .memory op _ => op.code
  | .stream op _ => op.code
  | .alu op _ _ => op.code
  | .compare op _ _ => op.code

/-- What stands in the parameter byte. -/
def parameter : Instruction → Nat
  | .plain _ => 0
  | .setValue _ value => value.toNat
  | .setRegister _ source => source.val
  | .address _ target => target.val / 16
  | .memory _ register => register.val
  | .stream _ register => register.val
  | .alu _ left right => left.val + 16 * right.val
  | .compare _ left right => left.val + 16 * right.val

theorem variant_lt (i : Instruction) : i.variant < 16 := by
  cases i with
  | plain op => exact Nat.zero_lt_succ 15
  | setValue dest value => exact dest.isLt
  | setRegister dest source => exact dest.isLt
  | address op target => exact Nat.mod_lt _ (by decide)
  | memory op register => exact op.code_lt
  | stream op register => exact op.code_lt
  | alu op left right => exact op.code_lt
  | compare op left right => exact op.code_lt

theorem parameter_lt (i : Instruction) : i.parameter < 256 := by
  cases i with
  | setValue dest value => exact value.toNat_lt
  | _ => simp only [parameter]; omega

theorem parameter_lt_of_leavesTopNibble (i : Instruction) (top : i.family.leavesTopNibble = true) :
    i.parameter < 16 := by
  cases i with
  | setRegister dest source => exact source.isLt
  | memory op register => exact register.isLt
  | stream op register => exact register.isLt
  | plain op => cases op <;> simp [family, PlainOp.operationClass, OperationClass.leavesTopNibble] at top
  | address op target => cases op <;> simp [family, AddressOp.operationClass, OperationClass.leavesTopNibble] at top
  | _ => simp [family, OperationClass.leavesTopNibble] at top

/-- A register that is read from the low four bits of a byte below sixteen. -/
theorem registerOf_eq {n : Nat} {r : Register} (same : n % 16 = r.val) : registerOf n = r :=
  Fin.ext same

/-- No field of an instruction is cut by the packing: the word is the sum of its fields. -/
theorem word_eq (i : Instruction) :
    i.word = i.family.number + 16 * i.variant + 256 * i.parameter := by
  have number := i.family.number_lt
  have high := i.variant_lt
  have bound := i.parameter_lt
  cases i <;>
    simp only [word, Word.ofNibblesByte, Word.ofNibbleAddress, Word.ofNibbles, family, variant,
      parameter] at * <;>
    omega

theorem word_range (i : Instruction) : 0 ≤ i.word ∧ i.word < 65536 := by
  have number := i.family.number_lt
  have high := i.variant_lt
  have bound := i.parameter_lt
  rw [i.word_eq]
  omega

theorem operationClass_word (i : Instruction) : Word.operationClass i.word = i.family.number := by
  have number := i.family.number_lt
  rw [i.word_eq, Word.operationClass]
  omega

theorem operation_word (i : Instruction) : Word.operation i.word = i.variant := by
  have number := i.family.number_lt
  have high := i.variant_lt
  rw [i.word_eq, Word.operation]
  omega

theorem addressField_word (i : Instruction) : Word.addressField i.word = i.variant + 16 * i.parameter := by
  have number := i.family.number_lt
  rw [i.word_eq, Word.addressField]
  omega

theorem addressField_address (op : AddressOp) (target : Address) :
    Word.addressField (address op target).word = target.val := by
  rw [addressField_word, variant, parameter]
  omega

theorem value_word (i : Instruction) : Word.value i.word = i.parameter := by
  have number := i.family.number_lt
  have high := i.variant_lt
  rw [i.word_eq, Word.value]
  omega

theorem argument1_word (i : Instruction) : Word.argument1 i.word = i.parameter % 16 := by
  rw [Word.argument1, ← Word.value, i.value_word]

theorem argument2_word (i : Instruction) : Word.argument2 i.word = i.parameter / 16 := by
  have bound := i.parameter_lt
  have value := i.value_word
  rw [Word.value] at value
  rw [Word.argument2]
  omega

theorem bytes_eq_pair_iff {i : Instruction} {opcode param : UInt8} :
    i.bytes = [opcode, param] ↔
      opcode.toNat = i.family.number + 16 * i.variant ∧ param.toNat = i.parameter := by
  have number := i.family.number_lt
  have high := i.variant_lt
  have bound := i.parameter_lt
  have opcodeBound := opcode.toNat_lt
  rw [bytes, Word.bytes_eq_pair_iff i.word_range.1 i.word_range.2, i.word_eq, Word.ofBytes]
  omega

theorem ofBytes?_of_fields {i : Instruction} {opcode param : UInt8}
    (opcodeFields : opcode.toNat = i.family.number + 16 * i.variant)
    (paramFields : (if i.family.leavesTopNibble then param.toNat % 16 else param.toNat) = i.parameter) :
    ofBytes? opcode param = some i := by
  have number := i.family.number_lt
  have high := i.variant_lt
  have class? : OperationClass.ofNumber? (opcode.toNat % 16) = some i.family :=
    OperationClass.ofNumber?_eq_some_iff.mpr (by omega)
  have operation : opcode.toNat / 16 = i.variant := by omega
  cases i with
  | plain op =>
    cases op <;>
      simp_all [ofBytes?, family, variant, parameter, PlainOp.operationClass, OperationClass.leavesTopNibble]
  | setValue dest value =>
    have same : param = value := UInt8.toNat_inj.mp paramFields
    simp only [ofBytes?, class?, operation, family, variant, same,
      registerOf_eq (Nat.mod_eq_of_lt dest.isLt)]
  | setRegister dest source =>
    simp only [ofBytes?, class?, operation, family, variant, registerOf_eq (Nat.mod_eq_of_lt dest.isLt),
      registerOf_eq paramFields]
  | address op target =>
    have whole : param.toNat = target.val / 16 := by cases op <;> exact paramFields
    have same : (target.val % 16 + 16 * param.toNat) % 4096 = target.val := by omega
    cases op <;> simp only [ofBytes?, class?, operation, family, variant, AddressOp.operationClass, same]
  | memory op register =>
    simp only [ofBytes?, class?, operation, family, variant, MemoryOp.ofCode?_eq_some_iff.mpr rfl,
      Option.map_some, registerOf_eq paramFields]
  | stream op register =>
    simp only [ofBytes?, class?, operation, family, variant, StreamOp.ofCode?_eq_some_iff.mpr rfl,
      Option.map_some, registerOf_eq paramFields]
  | alu op left right =>
    have whole : param.toNat = left.val + 16 * right.val := paramFields
    simp only [ofBytes?, class?, operation, family, variant, AluOp.ofCode?_eq_some_iff.mpr rfl,
      Option.map_some, registerOf_eq (show param.toNat % 16 = left.val by omega),
      registerOf_eq (show param.toNat / 16 % 16 = right.val by omega)]
  | compare op left right =>
    have whole : param.toNat = left.val + 16 * right.val := paramFields
    simp only [ofBytes?, class?, operation, family, variant, CompareOp.ofCode?_eq_some_iff.mpr rfl,
      Option.map_some, registerOf_eq (show param.toNat % 16 = left.val by omega),
      registerOf_eq (show param.toNat / 16 % 16 = right.val by omega)]

theorem fields_of_ofBytes? {i : Instruction} {opcode param : UInt8}
    (found : ofBytes? opcode param = some i) :
    opcode.toNat = i.family.number + 16 * i.variant ∧
      (if i.family.leavesTopNibble then param.toNat % 16 else param.toNat) = i.parameter := by
  have opcodeBound := opcode.toNat_lt
  have paramBound := param.toNat_lt
  cases class? : OperationClass.ofNumber? (opcode.toNat % 16) with
  | none => simp [ofBytes?, class?] at found
  | some c =>
    have number := OperationClass.ofNumber?_eq_some_iff.mp class?
    simp only [ofBytes?, class?] at found
    cases c with
    | halt | ret | nop =>
      simp only [Option.ite_none_right_eq_some, Option.some.injEq] at found
      obtain ⟨zero, rfl⟩ := found
      simp only [family, variant, parameter, PlainOp.operationClass, OperationClass.leavesTopNibble]
      refine ⟨by omega, by simp; omega⟩
    | setImmediate =>
      cases found
      simp only [family, variant, parameter, OperationClass.leavesTopNibble, registerOf]
      refine ⟨by omega, by simp⟩
    | setRegister =>
      cases found
      simp only [family, variant, parameter, OperationClass.leavesTopNibble, registerOf]
      refine ⟨by omega, by simp⟩
    | locate | jump | branch | call =>
      cases found
      simp only [family, variant, parameter, AddressOp.operationClass, OperationClass.leavesTopNibble]
      refine ⟨by omega, by simp; omega⟩
    | loadStore =>
      obtain ⟨op, code, rfl⟩ := Option.map_eq_some_iff.mp found
      have code := MemoryOp.ofCode?_eq_some_iff.mp code
      simp only [family, variant, parameter, OperationClass.leavesTopNibble, registerOf]
      refine ⟨by omega, by simp⟩
    | io =>
      obtain ⟨op, code, rfl⟩ := Option.map_eq_some_iff.mp found
      have code := StreamOp.ofCode?_eq_some_iff.mp code
      simp only [family, variant, parameter, OperationClass.leavesTopNibble, registerOf]
      refine ⟨by omega, by simp⟩
    | alu =>
      obtain ⟨op, code, rfl⟩ := Option.map_eq_some_iff.mp found
      have code := AluOp.ofCode?_eq_some_iff.mp code
      simp only [family, variant, parameter, OperationClass.leavesTopNibble, registerOf]
      refine ⟨by omega, by simp; omega⟩
    | compare =>
      obtain ⟨op, code, rfl⟩ := Option.map_eq_some_iff.mp found
      have code := CompareOp.ofCode?_eq_some_iff.mp code
      simp only [family, variant, parameter, OperationClass.leavesTopNibble, registerOf]
      refine ⟨by omega, by simp; omega⟩

/-- Reading two bytes finds an instruction exactly if they hold its fields. Of the
parameter byte only the low nibble is compared where the high one says nothing. -/
theorem ofBytes?_eq_some_iff {i : Instruction} {opcode param : UInt8} :
    ofBytes? opcode param = some i ↔
      opcode.toNat = i.family.number + 16 * i.variant ∧
        (if i.family.leavesTopNibble then param.toNat % 16 else param.toNat) = i.parameter :=
  ⟨fields_of_ofBytes?, fun fields => ofBytes?_of_fields fields.1 fields.2⟩

/-- An instruction is read back from its own two bytes. -/
theorem ofBytes?_of_bytes {i : Instruction} {opcode param : UInt8} (same : i.bytes = [opcode, param]) :
    ofBytes? opcode param = some i := by
  obtain ⟨opcodeFields, paramFields⟩ := bytes_eq_pair_iff.mp same
  refine ofBytes?_of_fields opcodeFields ?_
  split
  · rename_i top
    have small := i.parameter_lt_of_leavesTopNibble top
    omega
  · exact paramFields

theorem word_of_bytes {i : Instruction} {opcode param : UInt8} (same : i.bytes = [opcode, param]) :
    i.word = Word.ofBytes opcode param :=
  (Word.bytes_eq_pair_iff i.word_range.1 i.word_range.2).mp same

theorem exists_bytes (i : Instruction) : ∃ opcode param, i.bytes = [opcode, param] :=
  ⟨_, _, rfl⟩

end Instruction

end SledeCode
