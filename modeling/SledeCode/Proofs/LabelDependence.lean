import SledeCode.Proofs.EmissionOutcome

namespace SledeCode

variable {codecs : Codecs}

/-- The statement takes an address and gives it by the name of a label. -/
def Statement.RefersTo (s : Statement) (name : Text) : Prop :=
  ∃ op : AddressOp, s = ⟨op.name, [name]⟩ ∧ Operand.value? name = .ok none

namespace Emission

theorem address_of_value {operand : Text} {value : Int} (read : Operand.value? operand = .ok (some value))
    (e : Emission codecs) : e.address operand = inRange operand value 4095 := by
  simp only [address, literal, read]
  rfl

/-- An operand that names no label is read without the label table. -/
theorem address_eq_of_literal {operand : Text} (literal : Operand.value? operand ≠ .ok none) (e e' : Emission codecs) :
    e.address operand = e'.address operand := by
  cases read : Operand.value? operand with
  | error o =>
    simp only [address, Emission.literal, read]
    rfl
  | ok found =>
    cases found with
    | none => exact absurd read literal
    | some value => rw [address_of_value read, address_of_value read]

theorem address_of_bound {e : Emission codecs} {name : Text} (read : Operand.value? name = .ok none)
    (bound : e.labels.resolve name ≠ LabelTable.undefined) :
    e.address name = inRange name (e.labels.resolve name) 4095 := by
  simp only [address, literal, read]
  show (if e.labels.resolve name = LabelTable.undefined then _ else _) = _
  rw [if_neg bound]

theorem address_of_unbound {e : Emission codecs} {name : Text} (read : Operand.value? name = .ok none)
    (unbound : e.labels.resolve name = LabelTable.undefined) :
    e.address name =
      if e.options.strictLabels then
        .fail (.ofCause (.undefinedLabel name (Text.closeMatches name e.labels.names)))
      else ⟨[.undefinedLabel name], .ok 4095⟩ := by
  simp only [address, literal, read]
  show (if e.labels.resolve name = LabelTable.undefined then _ else _) = _
  rw [if_pos unbound]
  rfl

theorem data_eq {e e' : Emission codecs} (encoding : e.options.encodingName = e'.options.encodingName)
    (args : List Text) : e.data args = e'.data args := by
  rw [data, data, encoding]

theorem instruction_eq_of_not_refersTo {m : Mnemonic} {s : Statement} (named : s.mnemonic = m.name)
    (other : ∀ name, ¬ s.RefersTo name) (e e' : Emission codecs) : e.instruction m s = e'.instruction m s := by
  unfold instruction
  split
  case h_3 op operand args =>
    have read : s = ⟨op.name, [operand]⟩ := by rw [← args, show op.name = s.mnemonic from named.symm]
    rw [address_eq_of_literal (fun symbolic => other operand ⟨op, read, symbolic⟩) e e']
  all_goals rfl

theorem encode_of_name (e : Emission codecs) {m : Mnemonic} {s : Statement} (named : s.mnemonic = m.name) :
    e.encode s = e.instruction m s >>= fun i => pure i.bytes := by
  have other : s.mnemonic ≠ dataWord := named ▸ m.name_ne_dataWord
  rw [encode, if_neg other, Mnemonic.ofName?_eq_some_iff.mpr named]

/-- A statement that refers to no label is encoded without the label table, and of the options
only the encoding of texts matters to it. -/
theorem encode_eq_of_not_refersTo {e e' : Emission codecs} {s : Statement}
    (encoding : e.options.encodingName = e'.options.encodingName) (other : ∀ name, ¬ s.RefersTo name) :
    e.encode s = e'.encode s := by
  unfold encode
  split
  · exact data_eq encoding s.args
  · split
    · rename_i m named
      rw [instruction_eq_of_not_refersTo (Mnemonic.ofName?_eq_some_iff.mp named) other e e']
    · rfl

/-- A statement that refers to a label is encoded by the address that the label stands for. -/
theorem encode_address (e : Emission codecs) (op : AddressOp) (operand : Text) :
    e.encode ⟨op.name, [operand]⟩ = e.address operand >>= fun a => pure (Instruction.address op a).bytes := by
  rw [encode_of_name e (m := .address op) rfl]
  simp only [instruction, bind_assoc, pure_bind]

end Emission

end SledeCode
