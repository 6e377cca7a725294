import SledeCode.Proofs.EncodedFields
import SledeCode.Proofs.ListedCharacters

namespace SledeCode

variable {codecs : Codecs}

namespace Text

theorem isWord_cons {c : Char} {t : Text} (first : isWordChar c = true)
    (rest : ∀ d ∈ t, isWordChar d = true) : IsWord (c :: t) :=
  ⟨List.cons_ne_nil c t, List.forall_mem_cons.mpr ⟨first, rest⟩⟩

end Text

namespace Instruction

theorem registerText_isWord (r : Register) : Text.IsWord (registerText r) :=
  Text.isWord_cons (by decide) (fun _ member => Text.isWordChar_of_mem_decimal member)

theorem targetLabel_isWord (op : AddressOp) (a : Address) : Text.IsWord (targetLabel op a) :=
  Text.isWord_cons (by cases op <;> decide) (fun _ member => Text.isWordChar_of_mem_hexField member)

theorem isPlain (i : Instruction) : Statement.IsPlain ⟨i.mnemonic.name, i.operands⟩ := by
  refine ⟨i.mnemonic.name_isWord, ?_⟩
  cases i with
  | plain op => simp [operands]
  | setValue dest value =>
    have number : Text.IsWord (Text.decimal value.toNat) :=
      ⟨Text.decimal_ne_nil _, fun _ member => Text.isWordChar_of_mem_decimal member⟩
    simp [operands, registerText_isWord, number]
  | address op a => simp [operands, targetLabel_isWord]
  | setRegister | memory | stream | alu | compare => simp [operands, registerText_isWord]

/-- The operands an instruction is listed with: a target where no cell starts is written as a number. -/
def listedOperands (starts : Int → Bool) : Instruction → List Text
  | .address op a => [if starts a.val then targetLabel op a else '0' :: 'x' :: Text.hexField 3 a.val]
  | i => i.operands

theorem listed_isPlain (i : Instruction) (starts : Int → Bool) :
    Statement.IsPlain ⟨i.mnemonic.name, i.listedOperands starts⟩ := by
  cases i with
  | address op a =>
    have number : Text.IsWord ('0' :: 'x' :: Text.hexField 3 a.val) :=
      Text.isWord_cons (by decide) (List.forall_mem_cons.mpr
        ⟨by decide, fun _ member => Text.isWordChar_of_mem_hexField member⟩)
    refine ⟨(Mnemonic.address op).name_isWord, List.forall_mem_singleton.mpr ?_⟩
    split
    · exact targetLabel_isWord op a
    · exact number
  | _ => exact isPlain _

theorem after?_text (op : AddressOp) (a : Address) :
    Text.after? ' ' (address op a).text = some (targetLabel op a) := by
  have spaceless : ' ' ∉ (Mnemonic.address op).name := (Mnemonic.name_isWord _).not_mem (by decide)
  rw [← Text.commaList_singleton (targetLabel op a)]
  exact Text.after?_append_cons spaceless _

/-- The address operand, if there is one, with the label it is written as. -/
def reference? : Instruction → Option (Address × Text)
  | .address op a => some (a, targetLabel op a)
  | _ => none

end Instruction

namespace Cell

/-- The data statement for some bytes. -/
def dataStatement (bytes : Bytes) : Statement := ⟨dataWord, bytes.map byteOperand⟩

theorem byteOperand_isWord (b : UInt8) : Text.IsWord (byteOperand b) := by
  refine Text.isWord_cons (by decide) (List.forall_mem_cons.mpr ⟨by decide, fun c member => ?_⟩)
  exact Text.forall_mem_zeroPad (P := fun d => Text.isWordChar d = true) (by decide) 2 b.toNat c member

theorem dataStatement_isPlain (bytes : Bytes) : (dataStatement bytes).IsPlain := by
  refine ⟨Line.isWord_dataWord, fun t listed => ?_⟩
  obtain ⟨b, _, rfl⟩ := List.mem_map.mp listed
  exact byteOperand_isWord b

/-- How a cell that takes these bytes is listed: as an instruction that encodes to them, or as
data with a remark. -/
inductive Lists (c : Cell) : Bytes → Prop
  | instruction (i : Instruction) :
      c.isCode = true → c.text = i.text → c.target? = i.reference?.map (fun r => (r.1.val : Int)) →
      Lists c i.bytes
  | data (bytes : Bytes) (remark : Text) :
      c.isCode = false → c.target? = none → '\n' ∉ remark →
      c.dataText = .ok ((dataStatement bytes).text ++ ' ' :: Line.commentMark :: remark) →
      Lists c bytes

theorem target?_decode {opcode param : UInt8} {i : Instruction}
    (found : Instruction.ofBytes? opcode param = some i) (address : Int) :
    (decode opcode.toNat param.toNat address).target? = i.reference?.map (fun r => (r.1.val : Int)) := by
  obtain ⟨opcodeFields, paramFields⟩ := Instruction.ofBytes?_eq_some_iff.mp found
  have valid : (decode opcode.toNat param.toNat address).valid = true := by rw [decode_of_some found]
  rw [target?, if_pos valid, family?_decode found, word_decode]
  cases i with
  | address op a =>
    have same : (Instruction.address op a).bytes = [opcode, param] := by
      refine Instruction.bytes_eq_pair_iff.mpr ⟨opcodeFields, ?_⟩
      cases op <;> exact paramFields
    have field := Instruction.addressField_address op a
    rw [Instruction.word_of_bytes same] at field
    cases op <;> exact congrArg some field
  | plain op => cases op <;> rfl
  | setValue | setRegister | memory | stream | alu | compare => rfl

theorem address_decode (opcode param : UInt8) (address : Int) :
    (decode opcode.toNat param.toNat address).address = address := by
  unfold decode
  dsimp only
  split <;> rfl

/-- The remark on a data line stays on that line. -/
theorem exists_remark {c : Cell} {bytes : Bytes} (raw : c.rawBytes = .ok bytes) (nonempty : bytes ≠ [])
    (free : c.IsControlFree) : ∃ remark, '\n' ∉ remark ∧
      c.dataText = .ok ((dataStatement bytes).text ++ ' ' :: Line.commentMark :: remark) := by
  have written : (dataStatement bytes).text = dataWord ++ ' ' :: Text.commaList (bytes.map byteOperand) :=
    if_neg (by simpa [dataStatement] using nonempty)
  obtain ⟨remark, line⟩ : ∃ remark,
      c.dataText = .ok ((dataStatement bytes).text ++ ' ' :: Line.commentMark :: remark) := by
    rw [dataText, raw, written]
    exact ⟨' ' :: _, congrArg Except.ok (List.append_assoc _ _ _)⟩
  have inline := (free.dataText line).not_mem (show '\n' < ' ' by decide)
  refine ⟨remark, fun member => inline (List.mem_append_right _ ?_), line⟩
  exact List.mem_cons_of_mem _ (List.mem_cons_of_mem _ member)

theorem rawBytes_decode (opcode param : UInt8) (address : Int) :
    (decode opcode.toNat param.toNat address).rawBytes = .ok [opcode, param] := by
  have low := opcode.toNat_lt
  have high := param.toNat_lt
  have isByte : isByte opcode.toNat = true ∧ isByte param.toNat = true := by
    simp only [Cell.isByte, Bool.and_eq_true, decide_eq_true_eq]
    omega
  cases found : Instruction.ofBytes? opcode param with
  | none => simp [decode_of_none found, rawBytes, isByte, window]
  | some i => simp [decode_of_some found, rawBytes, isByte, window]

theorem rawBytes_lone (b : UInt8) (address : Int) : (lone b address).rawBytes = .ok [b] := by
  have low := b.toNat_lt
  have isByte : isByte b.toNat = true ∧ isByte 0 = true := by
    simp only [Cell.isByte, Bool.and_eq_true, decide_eq_true_eq]
    omega
  simp [lone, rawBytes, isByte, window]

theorem lists_decode (opcode param : UInt8) (address : Int) :
    (decode opcode.toNat param.toNat address).Lists [opcode, param] := by
  have raw := rawBytes_decode opcode param address
  cases code : (decode opcode.toNat param.toNat address).isCode with
  | true =>
    obtain ⟨i, same⟩ := isCode_decode_iff.mp code
    have found := Instruction.ofBytes?_of_bytes same
    rw [← same]
    exact .instruction i code (by rw [decode_of_some found]) (target?_decode found address)
  | false =>
    obtain ⟨remark, inline, text⟩ := exists_remark raw (by simp) (isControlFree_decode _ _ _)
    refine .data _ remark code ?_ inline text
    cases found : Instruction.ofBytes? opcode param with
    | none => simp [target?, decode_of_none found]
    | some i =>
      rw [target?_decode found]
      cases i with
      | address op a =>
        -- An address takes up all bits, so that such a word is code.
        rw [isCode_decode found] at code
        cases op <;> exact Bool.noConfusion code
      | _ => rfl

theorem lists_lone (b : UInt8) (address : Int) : (lone b address).Lists [b] := by
  obtain ⟨remark, inline, text⟩ := exists_remark (rawBytes_lone b address) (by simp) (isControlFree_lone b address)
  exact .data _ remark rfl rfl inline text

theorem sourceText_of_text {c : Cell} (code : c.isCode = true) : c.sourceText false = .ok c.text := by
  unfold sourceText
  rw [if_neg (by simp [code])]

theorem sourceText_literal {c : Cell} {op : AddressOp} {a : Address} (code : c.isCode = true)
    (text : c.text = (Instruction.address op a).text) (target : c.target? = some (a.val : Int)) :
    c.sourceText true =
      .ok (Statement.text ⟨(Mnemonic.address op).name, ['0' :: 'x' :: Text.hexField 3 a.val]⟩) := by
  have valid : c.valid = true := ((Bool.and_eq_true _ _).mp code).1
  unfold sourceText
  rw [if_neg (by simp [code]), target, mnemonic_of_text valid text]
  simp only [Statement.text, reduceCtorEq, if_false, Text.commaList_singleton]
  exact congrArg Except.ok (List.append_assoc _ _ _)

theorem sourceText_of_code {c : Cell} {i : Instruction} (code : c.isCode = true) (text : c.text = i.text)
    (target : c.target? = i.reference?.map (fun r => (r.1.val : Int))) (starts : Int → Bool) :
    c.sourceText (c.target?.any fun t => !starts t) =
      .ok (Statement.text ⟨i.mnemonic.name, i.listedOperands starts⟩) := by
  have labelled (shown : (c.target?.any fun t => !starts t) = false) (same : i.listedOperands starts = i.operands) :
      c.sourceText (c.target?.any fun t => !starts t) =
        .ok (Statement.text ⟨i.mnemonic.name, i.listedOperands starts⟩) := by
    rw [shown, same, sourceText_of_text code, text, i.text_eq]
  cases i with
  | address op a =>
    cases start : starts a.val with
    | true =>
      refine labelled ?_ (by simp [Instruction.listedOperands, Instruction.operands, start])
      simp [target, Instruction.reference?, start]
    | false =>
      have literal : (c.target?.any fun t => !starts t) = true := by
        simp [target, Instruction.reference?, start]
      rw [literal, sourceText_literal code text target]
      simp [Instruction.listedOperands, Instruction.mnemonic, start]
  | _ => exact labelled (by rw [target]; rfl) rfl

/-- The source line of a cell, and the statement that is read on it. -/
structure IsListedAs (c : Cell) (starts : Int → Bool) (line : Text) (st : Statement) : Prop where
  source : c.sourceText (c.target?.any fun t => !starts t) = .ok line
  inline : '\n' ∉ line
  isOn : st.IsOn (Text.trim line)

theorem isListedAs_of_code {c : Cell} {i : Instruction} (code : c.isCode = true) (text : c.text = i.text)
    (target : c.target? = i.reference?.map (fun r => (r.1.val : Int))) (starts : Int → Bool) :
    c.IsListedAs starts (Statement.text ⟨i.mnemonic.name, i.listedOperands starts⟩)
      ⟨i.mnemonic.name, i.listedOperands starts⟩ where
  source := sourceText_of_code code text target starts
  inline := (i.listed_isPlain starts).not_mem_text (by decide) (by decide) (by decide)
  isOn := by
    rw [(i.listed_isPlain starts).isNormal.trim_text]
    exact (i.listed_isPlain starts).isOn_text

theorem isListedAs_of_data {c : Cell} {bytes : Bytes} {remark : Text} (data : c.isCode = false)
    (inline : '\n' ∉ remark)
    (text : c.dataText = .ok ((dataStatement bytes).text ++ ' ' :: Line.commentMark :: remark))
    (starts : Int → Bool) :
    c.IsListedAs starts ((dataStatement bytes).text ++ ' ' :: Line.commentMark :: remark) (dataStatement bytes) where
  source := by
    unfold sourceText
    rw [if_pos (by simp [data]), text]
  inline := by
    have before := (dataStatement_isPlain bytes).not_mem_text (c := '\n') (by decide) (by decide) (by decide)
    simp [before, inline, Line.commentMark]
  isOn := by
    rw [(dataStatement_isPlain bytes).trim_commented]
    exact (dataStatement_isPlain bytes).isOn_commented _

/-- The operands that an instruction is listed with stand for that instruction, as long as the label of a
target where a cell starts is bound. -/
theorem denotes_listedOperands {i : Instruction} {starts : Int → Bool} {e : Emission codecs}
    (bound : ∀ r, i.reference? = some r → starts r.1.val = true → e.labels.find? r.2 = some (r.1.val : Int)) :
    Emission.Denotes e i.mnemonic (i.listedOperands starts) i := by
  cases i with
  | address op a =>
    cases start : starts a.val with
    | true =>
      simp only [Instruction.listedOperands, start, if_true]
      refine Emission.denotes_operands (i := .address op a) (fun op' a' same => ?_)
      cases same
      exact bound _ rfl start
    | false =>
      simp only [Instruction.listedOperands, start, Bool.false_eq_true, if_false]
      exact Emission.denotes_number e op a
  | _ => exact Emission.denotes_operands (fun op a same => nomatch same)

/-- The target of a cell, with the label that its text has for it. -/
def reference? (c : Cell) : Option (Int × Text) :=
  c.target?.bind fun target => (Text.after? ' ' c.text).map fun label => (target, label)

theorem reference?_of_text {c : Cell} {i : Instruction} (text : c.text = i.text)
    (target : c.target? = i.reference?.map (fun r => (r.1.val : Int))) :
    c.reference? = i.reference?.map (fun r => ((r.1.val : Int), r.2)) := by
  cases i with
  | address op a => simp [reference?, target, Instruction.reference?, text, Instruction.after?_text]
  | _ => simp [reference?, target, Instruction.reference?]

theorem Lists.reference_cases {c : Cell} {bytes : Bytes} (lists : c.Lists bytes) :
    (c.target? = none ∧ c.reference? = none) ∨
      ∃ op a, c.target? = some (Fin.val a : Int) ∧
        c.targetLabel? = .ok (some (Instruction.targetLabel op a)) ∧
        c.reference? = some ((a.val : Int), Instruction.targetLabel op a) := by
  cases lists with
  | data _ remark code target inline text => exact Or.inl ⟨target, by rw [reference?, target, Option.bind_none]⟩
  | instruction i code text target =>
    have reference := reference?_of_text text target
    cases i with
    | address op a =>
      refine Or.inr ⟨op, a, target, ?_, reference⟩
      simp only [targetLabel?, target, Instruction.reference?, text, Instruction.after?_text, Option.map_some]
    | _ => exact Or.inl ⟨target, reference⟩

end Cell

namespace Disassembly

/-- The bytes that a limit on the number of cells leaves. -/
def listedBytes (limit : Option Nat) (data : Bytes) : Bytes :=
  match limit with
  | none => data
  | some n => data.take (2 * n)

/-- Cells that follow each other from an address on, and the bytes that they take. -/
inductive Consecutive : Nat → List Cell → Bytes → Prop
  | nil (a : Nat) : Consecutive a [] []
  | cons {a : Nat} {c : Cell} {first others : Bytes} {rest : List Cell} :
      c.address = a → c.Lists first → Consecutive (a + first.length) rest others →
      Consecutive a (c :: rest) (first ++ others)

theorem Consecutive.lists {a : Nat} {cs : List Cell} {bytes : Bytes} (row : Consecutive a cs bytes) :
    ∀ c ∈ cs, ∃ first, c.Lists first := by
  induction row with
  | nil => simp
  | cons _ lists _ ih => exact List.forall_mem_cons.mpr ⟨⟨_, lists⟩, ih⟩

theorem cells_consecutive (a : Nat) (limit : Option Nat) (data : Bytes) :
    Consecutive a (cells a (limit.map Int.ofNat) data) (listedBytes limit data) := by
  induction data using List.twoStepInduction generalizing a limit with
  | nil =>
    have empty : listedBytes limit [] = [] := by cases limit <;> simp [listedBytes]
    rw [empty]
    exact .nil a
  | singleton b =>
    rcases limit with _ | _ | n
    · exact .cons rfl (Cell.lists_lone b a) (.nil _)
    · exact .nil a
    · exact .cons rfl (Cell.lists_lone b a) (.nil _)
  | cons_cons b c rest ih _ =>
    rcases limit with _ | _ | n
    · exact .cons (Cell.address_decode b c a) (Cell.lists_decode b c a) (ih (a + 2) none)
    · exact .nil a
    · have shown : cells a (some (Int.ofNat (n + 1))) (b :: c :: rest) =
          Cell.decode b.toNat c.toNat a :: cells ((a + 2 : Nat) : Int) (some (Int.ofNat n)) rest := by
        rw [cells, if_neg (by simp)]
        simp
      have taken : (b :: c :: rest).take (2 * (n + 1)) = [b, c] ++ rest.take (2 * n) := rfl
      simp only [Option.map_some, listedBytes]
      rw [shown, taken]
      exact .cons (Cell.address_decode b c a) (Cell.lists_decode b c a) (ih (a + 2) (some n))

/-- The references that are collected are those of the cells, as far as they go to a start. -/
theorem references_eq {starts : Int → Bool} {cs : List Cell} (listed : ∀ c ∈ cs, ∃ bytes, c.Lists bytes) :
    references starts cs = .ok ((cs.filterMap Cell.reference?).filter fun r => starts r.1) := by
  induction cs with
  | nil => rfl
  | cons c rest ih =>
    rw [List.forall_mem_cons] at listed
    have others := ih listed.2
    obtain ⟨bytes, lists⟩ := listed.1
    rcases lists.reference_cases with ⟨target, reference⟩ | ⟨op, a, target, label, reference⟩
    · simp only [references, target, others, List.filterMap_cons, reference]
    · simp only [references, target, others, List.filterMap_cons, reference, List.filter_cons, label]
      split <;> rfl

end Disassembly

end SledeCode
