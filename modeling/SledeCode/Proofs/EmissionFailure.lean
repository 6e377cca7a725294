import SledeCode.Proofs.StatementOffence

namespace SledeCode

variable {codecs : Codecs}

namespace Operand

/-- The operand is a decimal numeral, with or without a sign or as the number of a register, that
has more digits than are read. -/
def IsOverlong (t : Text) (o : Overlong) : Prop :=
  ∃ mark ∈ ([[], ['+'], ['-'], ['r']] : List Text), ∃ digits : Text,
    t = mark ++ digits ∧ digits.all Char.isDigit = true ∧ digits.length = o.digits ∧ digitLimit < o.digits

theorem splitSign_cases (t : Text) : ∃ mark ∈ ([[], ['+'], ['-']] : List Text), t = mark ++ (splitSign t).2 := by
  unfold splitSign
  split
  · exact ⟨['+'], by simp, rfl⟩
  · exact ⟨['-'], by simp, rfl⟩
  · exact ⟨[], by simp, rfl⟩

/-- A literal is refused only for the number of its decimal digits. -/
theorem digits_of_value?_error {t : Text} {o : Overlong} (failed : value? t = .error o) :
    ∃ mark ∈ ([[], ['+'], ['-']] : List Text), ∃ digits : Text,
      t = mark ++ digits ∧ digits.all Char.isDigit = true ∧ digits.length = o.digits ∧ digitLimit < o.digits := by
  obtain ⟨mark, sign, whole⟩ := splitSign_cases t
  unfold value? at failed
  split at failed
  · cases failed
  · dsimp only at failed
    split at failed
    · cases failed
    · rename_i numeral
      split at failed
      · rename_i long
        cases failed
        have digits : (splitSign t).2.all Char.isDigit = true := by
          simpa using (not_or.mp numeral).2
        exact ⟨mark, sign, _, whole, digits, rfl, long⟩
      · cases failed

theorem isOverlong_of_value? {t : Text} {o : Overlong} (failed : value? t = .error o) : IsOverlong t o := by
  obtain ⟨mark, sign, digits, numeral⟩ := digits_of_value?_error failed
  have listed : mark ∈ ([[], ['+'], ['-'], ['r']] : List Text) := by
    simp only [List.mem_cons, List.not_mem_nil, or_false] at sign ⊢
    tauto
  exact ⟨mark, listed, digits, numeral⟩

theorem isOverlong_of_register? {t : Text} {o : Overlong} (failed : register? t = .error o) : IsOverlong t o := by
  unfold register? at failed
  split at failed
  · cases failed
  · cases failed
  · rename_i number plus minus
    cases read : value? number with
    | ok found =>
      rw [read] at failed
      cases failed
    | error e =>
      rw [read] at failed
      cases failed
      -- The number of a register has no sign, so that the digits are all of it.
      obtain ⟨mark, sign, digits, rfl, numeral⟩ := digits_of_value?_error read
      have unsigned : mark = [] := by
        simp only [List.mem_cons, List.not_mem_nil, or_false] at sign
        rcases sign with rfl | rfl | rfl
        · rfl
        · exact absurd rfl (plus digits)
        · exact absurd rfl (minus digits)
      subst unsigned
      exact ⟨['r'], by simp, digits, rfl, numeral⟩
  · cases failed

end Operand

def Cause.isUndefinedLabel : Cause → Bool
  | .undefinedLabel .. => true
  | _ => false

namespace Emission

/-- What a statement can fail with: a label that it refers to and that strict labels ask for, another
cause, or a numeral past the digit limit among its operands. Nothing has a place yet. -/
inductive IsFault (e : Emission codecs) (s : Statement) : Failure → Prop
  | undefinedLabel {name : Text} (similar : List Text) :
      s.RefersTo name → e.labels.resolve name = LabelTable.undefined → e.options.strictLabels = true →
      IsFault e s (.ofCause (.undefinedLabel name similar))
  | cause (c : Cause) : c.isUndefinedLabel = false → IsFault e s (.ofCause c)
  | overlong {t : Text} {o : Operand.Overlong} :
      t ∈ s.args → Operand.IsOverlong t o → IsFault e s (.overlong o)

/-- What is reported of an operand, apart from a label that is not defined. -/
theorem Offends.isFault_or_undefined {e : Emission codecs} {slot : Slot} {t : Text} {f : Failure}
    (offends : e.Offends slot t f) {s : Statement} (member : t ∈ s.args) :
    e.IsFault s f ∨ slot = .address ∧ Operand.value? t = .ok none ∧
      e.labels.resolve t = LabelTable.undefined ∧ e.options.strictLabels = true ∧
      ∃ similar, f = .ofCause (.undefinedLabel t similar) := by
  induction offends with
  | register | value | number | label => exact Or.inl (.cause _ rfl)
  | longRegister read => exact Or.inl (.overlong member (Operand.isOverlong_of_register? read))
  | longValue read | longNumber read => exact Or.inl (.overlong member (Operand.isOverlong_of_value? read))
  | source _ _ ih =>
    rcases ih member with fault | ⟨other, _⟩
    · exact Or.inl fault
    · cases other
  | undefinedLabel symbolic unbound strict => exact Or.inr ⟨rfl, symbolic, unbound, strict, _, rfl⟩

theorem FirstOffence.exists_offends {e : Emission codecs} {slots : List Slot} {ts : List Text} {f : Failure}
    (offence : e.FirstOffence slots ts f) : ∃ slot t, (slot, t) ∈ slots.zip ts ∧ e.Offends slot t f := by
  induction offence with
  | here offends => exact ⟨_, _, List.mem_cons_self, offends⟩
  | later _ _ ih =>
    obtain ⟨slot, t, member, offends⟩ := ih
    exact ⟨slot, t, List.mem_cons_of_mem _ member, offends⟩

/-- Only the instructions that take an address have a place for one. -/
theorem refersTo_of_address {m : Mnemonic} {s : Statement} {t : Text} (named : s.mnemonic = m.name)
    (count : s.args.length = m.arity) (member : (Slot.address, t) ∈ m.slots.zip s.args)
    (symbolic : Operand.value? t = .ok none) : s.RefersTo t := by
  cases m with
  | address op =>
    obtain ⟨operand, args⟩ := List.length_eq_one_iff.mp count
    rw [args] at member
    cases List.mem_singleton.mp member
    exact ⟨op, by rw [← args, show op.name = s.mnemonic from named.symm], symbolic⟩
  | _ =>
    have listed := (List.of_mem_zip member).1
    simp [Mnemonic.slots] at listed

/-- Under a lawful codec, an operand of a data line is reported for a cause, or as a numeral past the
digit limit. -/
theorem DatumOffends.isFault {e : Emission codecs} {codec : Codec}
    (found : codecs.find e.options.encodingName = .ok codec) (lawful : codec.IsLawful) {s : Statement} {t : Text}
    (member : t ∈ s.args) {f : Failure} (offends : DatumOffends codecs.find e.options.encodingName t f) :
    e.IsFault s f := by
  cases offends with
  | unterminated | character | number | value => exact .cause _ rfl
  | longNumber _ read => exact .overlong member (Operand.isOverlong_of_value? read)
  | codec _ missing => cases found.symm.trans missing
  | transfer _ same refused =>
    cases found.symm.trans same
    cases lawful.refusal _ _ refused

/-- Encoding a statement fails with a diagnostic, or because a numeral among the operands has too
many digits. It calls a label undefined only where it may. -/
theorem isFault_of_encode {e : Emission codecs} {codec : Codec}
    (found : codecs.find e.options.encodingName = .ok codec) (lawful : codec.IsLawful) {s : Statement} {f : Failure}
    (failed : (e.encode s).outcome = .error f) : e.IsFault s f := by
  cases (encode_endsBy e s).offence_of_error failed with
  | unknownWord | arity => exact .cause _ rfl
  | datum _ member offends => exact offends.isFault found lawful member
  | operand named count offence =>
    obtain ⟨slot, t, member, offends⟩ := offence.exists_offends
    rcases offends.isFault_or_undefined (List.of_mem_zip member).2 with
      fault | ⟨rfl, symbolic, unbound, strict, similar, rfl⟩
    · exact fault
    · exact .undefinedLabel similar (refersTo_of_address named count member symbolic) unbound strict

end Emission

end SledeCode
