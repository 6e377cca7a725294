import SledeCode.Proofs.EmissionFailure

namespace SledeCode

variable {codecs : Codecs}

/-- The cause lies in one operand: it is no register, its value does not fit, or it names no label. -/
def Cause.concernsOperand : Cause → Bool
  | .badRegister _ | .outOfRange .. | .undefinedLabel .. => true
  | _ => false

theorem Failure.ofCause_inj {c d : Cause} : Failure.ofCause c = .ofCause d ↔ c = d := by
  refine ⟨fun same => ?_, congrArg _⟩
  exact congrArg Diagnostic.cause (Failure.diagnostic.inj same)

namespace Emission

variable {e : Emission codecs}

theorem Offends.unique {slot : Slot} {t : Text} {f g : Failure} (one : Offends e slot t f)
    (two : Offends e slot t g) : f = g := by
  induction one with
  | register read => cases two <;> simp_all
  | longRegister read => cases two <;> simp_all
  | value read outside => cases two <;> simp_all
  | longValue read => cases two <;> simp_all
  | source read inner ih =>
    cases two with
    | source _ other => exact ih other
    | value other | longValue other => simp_all
  | number read outside => cases two <;> simp_all
  | longNumber read => cases two <;> simp_all
  | label read bound outside => cases two <;> simp_all
  | undefinedLabel read unbound strict => cases two <;> simp_all

theorem FirstOffence.unique {slots : List Slot} {ts : List Text} {f g : Failure}
    (one : FirstOffence e slots ts f) (two : FirstOffence e slots ts g) : f = g := by
  induction one with
  | here offends =>
    cases two with
    | here other => exact offends.unique other
    | later fits _ => exact absurd offends (fits _)
  | later fits _ ih =>
    cases two with
    | here other => exact absurd other (fits _)
    | later _ other => exact ih other

/-- An operand is reported for a cause of its own, or as a numeral past the digit limit. -/
theorem Offends.concernsOperand {slot : Slot} {t : Text} {f : Failure} (offends : Offends e slot t f) :
    (∃ c, f = .ofCause c ∧ c.concernsOperand = true) ∨ ∃ o, f = .overlong o ∧ Operand.IsOverlong t o := by
  induction offends with
  | register | value | number | label | undefinedLabel => exact Or.inl ⟨_, rfl, rfl⟩
  | longRegister read => exact Or.inr ⟨_, rfl, Operand.isOverlong_of_register? read⟩
  | longValue read | longNumber read => exact Or.inr ⟨_, rfl, Operand.isOverlong_of_value? read⟩
  | source _ _ ih => exact ih

theorem FirstOffence.concernsOperand {slots : List Slot} {ts : List Text} {f : Failure}
    (offence : FirstOffence e slots ts f) :
    (∃ c, f = .ofCause c ∧ c.concernsOperand = true) ∨
      ∃ o, f = .overlong o ∧ ∃ t ∈ ts, Operand.IsOverlong t o := by
  induction offence with
  | here offends =>
    refine offends.concernsOperand.imp_right ?_
    rintro ⟨o, rfl, long⟩
    exact ⟨o, rfl, _, List.mem_cons_self, long⟩
  | later _ _ ih =>
    refine ih.imp_right ?_
    rintro ⟨o, rfl, t, member, long⟩
    exact ⟨o, rfl, t, List.mem_cons_of_mem _ member, long⟩

theorem FirstOffence.cause_concernsOperand {slots : List Slot} {ts : List Text} {c : Cause}
    (offence : FirstOffence e slots ts (.ofCause c)) : c.concernsOperand = true := by
  rcases offence.concernsOperand with ⟨d, same, concerns⟩ | ⟨o, other, _⟩
  · rw [Failure.ofCause_inj.mp same]
    exact concerns
  · cases other

theorem encode_error_iff (e : Emission codecs) {m : Mnemonic} {s : Statement} (named : s.mnemonic = m.name)
    (count : s.args.length = m.arity) (f : Failure) :
    (e.encode s).outcome = .error f ↔ FirstOffence e m.slots s.args f :=
  ((encode_endsBy e s).congr (fun g => (offence_iff_of_count named count g).symm)).error_iff
    (fun _ _ one two => one.unique two) f

theorem encode_pair_iff (e : Emission codecs) {m : Mnemonic} {s : Statement} (named : s.mnemonic = m.name)
    (count : s.args.length = m.arity) :
    (∃ opcode param, (e.encode s).outcome = .ok [opcode, param]) ↔ ∀ f, ¬ FirstOffence e m.slots s.args f := by
  simp only [offence_iff_of_count named count, ← (encode_endsBy e s).ok_iff]
  constructor
  · rintro ⟨opcode, param, done⟩
    exact ⟨_, done⟩
  · rintro ⟨bytes, done⟩
    rw [encode_of_name e named] at done ⊢
    obtain ⟨i, _, same⟩ := Run.bind_eq_ok_iff.mp done
    obtain ⟨opcode, param, pair⟩ := i.exists_bytes
    exact ⟨opcode, param, by rw [done, ← Except.ok.inj same, pair]⟩

theorem encode_wrongArity_iff (e : Emission codecs) {m : Mnemonic} {s : Statement} (named : s.mnemonic = m.name) :
    (∃ word args expected, (e.encode s).outcome = .error (.ofCause (.wrongArity word args expected))) ↔
      s.args.length ≠ m.arity := by
  constructor
  · rintro ⟨word, args, expected, failed⟩ count
    cases ((encode_error_iff e named count _).mp failed).cause_concernsOperand
  · intro wrong
    refine ⟨s.mnemonic, s.args, m.arity, ?_⟩
    rw [encode_of_name e named, instruction_of_count_ne e wrong]
    rfl

theorem encode_unknownMnemonic_iff (e : Emission codecs) (s : Statement) :
    (∃ word similar, (e.encode s).outcome = .error (.ofCause (.unknownMnemonic word similar))) ↔
      s.mnemonic ∉ knownWords := by
  constructor
  · rintro ⟨word, similar, failed⟩
    generalize reported : Failure.ofCause (.unknownMnemonic word similar) = f at failed
    cases (encode_endsBy e s).offence_of_error failed with
    | unknownWord unknown => exact unknown
    | datum _ _ offends => cases offends <;> cases reported
    | arity => cases reported
    | operand _ _ offence =>
      subst reported
      cases offence.cause_concernsOperand
  · intro unknown
    exact ⟨_, _, congrArg Run.outcome (encode_of_unknown e unknown)⟩

/-- What is checked of a statement, in this order: that its word is known; that its operands are as many
as the word takes, whatever they are; and that each operand, from left to right, is in its place. An
instruction that passes has two bytes. -/
theorem encode_checks_in_order (e : Emission codecs) (s : Statement) :
    ((∃ word similar, (e.encode s).outcome = .error (.ofCause (.unknownMnemonic word similar))) ↔
      s.mnemonic ∉ knownWords) ∧
    ∀ m : Mnemonic, s.mnemonic = m.name →
      ((∃ word args expected, (e.encode s).outcome = .error (.ofCause (.wrongArity word args expected))) ↔
        s.args.length ≠ m.arity) ∧
      (s.args.length = m.arity →
        (∀ f, (e.encode s).outcome = .error f ↔ FirstOffence e m.slots s.args f) ∧
        ((∃ opcode param, (e.encode s).outcome = .ok [opcode, param]) ↔
          ∀ f, ¬ FirstOffence e m.slots s.args f) ∧
        ∀ f, FirstOffence e m.slots s.args f →
          (∃ c, f = .ofCause c ∧ c.concernsOperand = true) ∨
            ∃ o, f = .overlong o ∧ ∃ t ∈ s.args, Operand.IsOverlong t o) := by
  refine ⟨encode_unknownMnemonic_iff e s, fun m named => ⟨encode_wrongArity_iff e named, fun count => ?_⟩⟩
  exact ⟨encode_error_iff e named count, encode_pair_iff e named count, fun f offence => offence.concernsOperand⟩

/-- Faults in both operands and in their number: the number comes first, then the operand on the left. A
jump to the last address passes. -/
theorem encode_checks_in_order_two_faults :
    let e : Emission .standard := ⟨.empty, .standard⟩
    (∃ word args expected, (e.encode ⟨"PLUSS".toList, ["r99".toList]⟩).outcome =
        .error (.ofCause (.wrongArity word args expected))) ∧
      (e.encode ⟨"SETT".toList, ["r16".toList, "256".toList]⟩).outcome =
        .error (.ofCause (.badRegister "r16".toList)) ∧
      (e.encode ⟨"SETT".toList, ["r15".toList, "256".toList]⟩).outcome =
        .error (.ofCause (.outOfRange "256".toList 256 255)) ∧
      ∃ opcode param, (e.encode ⟨"HOPP".toList, ["0xFFF".toList]⟩).outcome = .ok [opcode, param] := by
  intro e
  have r15 : Operand.register? "r15".toList = .ok (some 15) := by decide
  have last : Operand.value? "0xFFF".toList = .ok (some 4095) := by decide
  refine ⟨((encode_checks_in_order e _).2 (.alu .pluss) rfl).1.mpr (by decide), ?_, ?_, ?_⟩
  · exact ((((encode_checks_in_order e _).2 .sett rfl).2 rfl).1 _).mpr (.here (.register (by decide)))
  · refine ((((encode_checks_in_order e _).2 .sett rfl).2 rfl).1 _).mpr
      (.later (fun g offends => ?_) (.here (.value (by decide) (by decide))))
    cases offends <;> simp_all
  · refine (((encode_checks_in_order e _).2 (.address .hopp) rfl).2 rfl).2.1.mpr (fun f offence => ?_)
    cases offence with
    | later _ none => cases none
    | here offends => exact ((offends_address_of_value last f).mpr offends).1 (by decide)

end Emission

end SledeCode
