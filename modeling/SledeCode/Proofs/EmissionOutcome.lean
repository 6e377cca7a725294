import SledeCode.Emission
import SledeCode.Proofs.CodeCell

namespace SledeCode

variable {codecs : Codecs}

namespace LabelTable

/-- No address of the memory is the one that stands for a missing binding. -/
theorem resolve_eq_address_iff {t : LabelTable} {name : Text} {a : Address} :
    t.resolve name = a.val ↔ t.find? name = some (a.val : Int) := by
  rw [resolve]
  cases t.find? name with
  | none =>
    simp only [Option.getD_none, undefined, reduceCtorEq, iff_false]
    omega
  | some found => simp

end LabelTable

namespace Emission

theorem literal_eq_ok_iff {operand : Text} {v : Option Int} :
    (literal operand).outcome = .ok v ↔ Operand.value? operand = .ok v :=
  Run.ofOutcome_mapError_eq_ok_iff

theorem inRange_eq_ok_iff {operand : Text} {value : Int} {bound : Nat} {n : Fin (bound + 1)} :
    (inRange operand value bound).outcome = .ok n ↔ value = n.val := by
  unfold inRange
  split
  · rw [Run.outcome_pure, Except.ok.injEq, Fin.ext_iff]
    show value.toNat = n.val ↔ value = n.val
    omega
  · simp only [Run.outcome_fail, reduceCtorEq, false_iff]
    omega

theorem toNat_lt_of_fits {value : Int} {bound : Nat} (fits : 0 ≤ value ∧ value ≤ bound) :
    value.toNat < bound + 1 := by
  omega

theorem inRange_of_fits {operand : Text} {value : Int} {bound : Nat} (fits : 0 ≤ value ∧ value ≤ bound) :
    inRange operand value bound = pure ⟨value.toNat, toNat_lt_of_fits fits⟩ := dif_pos fits

theorem inRange_of_outside {operand : Text} {value : Int} {bound : Nat} (outside : ¬ (0 ≤ value ∧ value ≤ bound)) :
    inRange operand value bound = .fail (.ofCause (.outOfRange operand value bound)) := dif_neg outside

theorem register_eq_ok_iff {operand : Text} {r : Register} :
    (register operand).outcome = .ok r ↔ Operand.register? operand = .ok (some r) := by
  simp only [register, Run.bind_eq_ok_iff, Run.ofOutcome_mapError_eq_ok_iff]
  constructor
  · rintro ⟨_ | found, read, same⟩
    · simp at same
    · simp only [Run.outcome_pure, Except.ok.injEq] at same
      rw [read, same]
  · intro read
    exact ⟨some r, read, rfl⟩

/-- An address operand gives an address if it is a number in range, a label bound in range, or
a label without a binding where labels are not strict. -/
theorem address_eq_ok_iff {e : Emission codecs} {operand : Text} {a : Address} :
    (e.address operand).outcome = .ok a ↔
      Operand.value? operand = .ok (some (a.val : Int)) ∨
        Operand.value? operand = .ok none ∧
          (e.labels.find? operand = some (a.val : Int) ∨
            e.labels.resolve operand = LabelTable.undefined ∧ e.options.strictLabels = false ∧
              a = 4095) := by
  simp only [address, Run.bind_eq_ok_iff, literal_eq_ok_iff]
  constructor
  · rintro ⟨_ | value, read, rest⟩
    · refine Or.inr ⟨read, ?_⟩
      dsimp only at rest
      split at rest
      · rename_i unbound
        split at rest
        · simp at rest
        · rename_i lenient
          obtain ⟨_, _, last⟩ := Run.bind_eq_ok_iff.mp rest
          exact Or.inr ⟨unbound, by simpa using lenient, (Except.ok.inj last).symm⟩
      · exact Or.inl (LabelTable.resolve_eq_address_iff.mp (inRange_eq_ok_iff.mp rest))
    · exact Or.inl (by rw [read, ← inRange_eq_ok_iff.mp rest])
  · rintro (read | ⟨read, bound | ⟨unbound, lenient, rfl⟩⟩)
    · exact ⟨_, read, inRange_eq_ok_iff.mpr rfl⟩
    · have found := LabelTable.resolve_eq_address_iff.mpr bound
      have defined : e.labels.resolve operand ≠ LabelTable.undefined := by
        rw [found, LabelTable.undefined]
        omega
      refine ⟨none, read, ?_⟩
      dsimp only
      rw [if_neg defined]
      exact inRange_eq_ok_iff.mpr found
    · refine ⟨none, read, ?_⟩
      dsimp only
      rw [if_pos unbound, if_neg (by simp [lenient])]
      rfl

/-- What is made of a number that has to fit into a byte. -/
theorem byte_eq_ok_iff {α : Type} {operand : Text} {value : Int} {a : α} (made : UInt8 → α) :
    (inRange operand value 255 >>= fun byte => pure (made (UInt8.ofNat byte.val))).outcome = .ok a ↔
      ∃ byte : UInt8, value = byte.toNat ∧ a = made byte := by
  constructor
  · intro done
    obtain ⟨byte, fits, same⟩ := Run.bind_eq_ok_iff.mp done
    have whole : (UInt8.ofNat byte.val).toNat = byte.val := by
      rw [UInt8.toNat_ofNat']
      omega
    refine ⟨UInt8.ofNat byte.val, ?_, (Except.ok.inj same).symm⟩
    rw [whole, inRange_eq_ok_iff.mp fits]
  · rintro ⟨byte, rfl, rfl⟩
    have fits := byte.toNat_lt
    refine Run.bind_ok (a := ⟨byte.toNat, by omega⟩) (inRange_eq_ok_iff.mpr rfl) ?_
    simp

theorem setting_eq_ok_iff {dest : Register} {operand : Text} {i : Instruction} :
    (setting dest operand).outcome = .ok i ↔
      (∃ value : UInt8, Operand.value? operand = .ok (some (value.toNat : Int)) ∧ i = .setValue dest value) ∨
        (∃ source, Operand.value? operand = .ok none ∧ Operand.register? operand = .ok (some source) ∧
          i = .setRegister dest source) := by
  simp only [setting, Run.bind_eq_ok_iff, literal_eq_ok_iff]
  constructor
  · rintro ⟨_ | value, read, rest⟩
    · obtain ⟨source, found, same⟩ := Run.bind_eq_ok_iff.mp rest
      exact Or.inr ⟨source, read, register_eq_ok_iff.mp found, (Except.ok.inj same).symm⟩
    · obtain ⟨byte, rfl, rfl⟩ := (byte_eq_ok_iff (Instruction.setValue dest)).mp rest
      exact Or.inl ⟨byte, read, rfl⟩
  · rintro (⟨value, read, rfl⟩ | ⟨source, read, found, rfl⟩)
    · exact ⟨_, read, (byte_eq_ok_iff (Instruction.setValue dest)).mpr ⟨value, rfl, rfl⟩⟩
    · exact ⟨none, read, Run.bind_ok (register_eq_ok_iff.mpr found) rfl⟩

theorem one_register_eq_ok_iff {operand : Text} {make : Register → Instruction} {i : Instruction} :
    (register operand >>= fun r => pure (make r)).outcome = .ok i ↔
      ∃ r, Operand.register? operand = .ok (some r) ∧ i = make r := by
  simp only [Run.bind_eq_ok_iff, register_eq_ok_iff, Run.outcome_pure, Except.ok.injEq, eq_comm (b := i)]

theorem two_registers_eq_ok_iff {first second : Text} {make : Register → Register → Instruction}
    {i : Instruction} :
    (register first >>= fun left => register second >>= fun right => pure (make left right)).outcome = .ok i ↔
      ∃ left right, Operand.register? first = .ok (some left) ∧ Operand.register? second = .ok (some right) ∧
        i = make left right := by
  rw [Run.bind_eq_ok_iff]
  simp only [one_register_eq_ok_iff, register_eq_ok_iff, exists_and_left]

/-- What a mnemonic with operands stands for, rule by rule. -/
inductive Denotes (e : Emission codecs) : Mnemonic → List Text → Instruction → Prop
  | plain (op : PlainOp) : Denotes e (.plain op) [] (.plain op)
  | setValue {dest source : Text} {r : Register} {value : UInt8} :
      Operand.register? dest = .ok (some r) → Operand.value? source = .ok (some (value.toNat : Int)) →
      Denotes e .sett [dest, source] (.setValue r value)
  | setRegister {dest source : Text} {r other : Register} :
      Operand.register? dest = .ok (some r) → Operand.value? source = .ok none →
      Operand.register? source = .ok (some other) →
      Denotes e .sett [dest, source] (.setRegister r other)
  | number (op : AddressOp) {operand : Text} {a : Address} :
      Operand.value? operand = .ok (some (a.val : Int)) →
      Denotes e (.address op) [operand] (.address op a)
  | label (op : AddressOp) {operand : Text} {a : Address} :
      Operand.value? operand = .ok none → e.labels.find? operand = some (a.val : Int) →
      Denotes e (.address op) [operand] (.address op a)
  | unbound (op : AddressOp) {operand : Text} :
      Operand.value? operand = .ok none → e.labels.resolve operand = LabelTable.undefined →
      e.options.strictLabels = false →
      Denotes e (.address op) [operand] (.address op 4095)
  | memory (op : MemoryOp) {operand : Text} {r : Register} :
      Operand.register? operand = .ok (some r) → Denotes e (.memory op) [operand] (.memory op r)
  | stream (op : StreamOp) {operand : Text} {r : Register} :
      Operand.register? operand = .ok (some r) → Denotes e (.stream op) [operand] (.stream op r)
  | alu (op : AluOp) {first second : Text} {left right : Register} :
      Operand.register? first = .ok (some left) → Operand.register? second = .ok (some right) →
      Denotes e (.alu op) [first, second] (.alu op left right)
  | compare (op : CompareOp) {first second : Text} {left right : Register} :
      Operand.register? first = .ok (some left) → Operand.register? second = .ok (some right) →
      Denotes e (.compare op) [first, second] (.compare op left right)

theorem Denotes.mnemonic_eq {e : Emission codecs} {m : Mnemonic} {args : List Text} {i : Instruction}
    (denotes : Denotes e m args i) : i.mnemonic = m := by
  cases denotes <;> rfl

theorem denotes_of_instruction {e : Emission codecs} {m : Mnemonic} {s : Statement} {i : Instruction}
    (done : (e.instruction m s).outcome = .ok i) : Denotes e m s.args i := by
  unfold instruction at done
  split at done
  · rename_i op args
    rw [args, ← Except.ok.inj done]
    exact .plain op
  · rename_i dest source args
    obtain ⟨r, found, rest⟩ := Run.bind_eq_ok_iff.mp done
    rw [args]
    rcases setting_eq_ok_iff.mp rest with ⟨value, read, rfl⟩ | ⟨other, read, second, rfl⟩
    · exact .setValue (register_eq_ok_iff.mp found) read
    · exact .setRegister (register_eq_ok_iff.mp found) read second
  · rename_i op operand args
    obtain ⟨a, found, same⟩ := Run.bind_eq_ok_iff.mp done
    rw [args, ← Except.ok.inj same]
    rcases address_eq_ok_iff.mp found with read | ⟨read, bound | ⟨missing, lenient, rfl⟩⟩
    · exact .number op read
    · exact .label op read bound
    · exact .unbound op read missing lenient
  · rename_i op operand args
    obtain ⟨r, found, rfl⟩ := one_register_eq_ok_iff.mp done
    exact args ▸ .memory op found
  · rename_i op operand args
    obtain ⟨r, found, rfl⟩ := one_register_eq_ok_iff.mp done
    exact args ▸ .stream op found
  · rename_i op first second args
    obtain ⟨left, right, leftFound, rightFound, rfl⟩ := two_registers_eq_ok_iff.mp done
    exact args ▸ .alu op leftFound rightFound
  · rename_i op first second args
    obtain ⟨left, right, leftFound, rightFound, rfl⟩ := two_registers_eq_ok_iff.mp done
    exact args ▸ .compare op leftFound rightFound
  · cases done

theorem Denotes.instruction_eq {e : Emission codecs} {m : Mnemonic} {s : Statement} {i : Instruction}
    (denotes : Denotes e m s.args i) : (e.instruction m s).outcome = .ok i := by
  generalize written : s.args = args at denotes
  cases denotes with
  | plain op => simp only [instruction, written, Run.outcome_pure]
  | setValue dest value =>
    simp only [instruction, written]
    exact Run.bind_ok (register_eq_ok_iff.mpr dest) (setting_eq_ok_iff.mpr (Or.inl ⟨_, value, rfl⟩))
  | setRegister dest value source =>
    simp only [instruction, written]
    exact Run.bind_ok (register_eq_ok_iff.mpr dest) (setting_eq_ok_iff.mpr (Or.inr ⟨_, value, source, rfl⟩))
  | number op value =>
    simp only [instruction, written]
    exact Run.bind_ok (address_eq_ok_iff.mpr (Or.inl value)) rfl
  | label op value bound =>
    simp only [instruction, written]
    exact Run.bind_ok (address_eq_ok_iff.mpr (Or.inr ⟨value, Or.inl bound⟩)) rfl
  | unbound op value missing lenient =>
    simp only [instruction, written]
    exact Run.bind_ok (address_eq_ok_iff.mpr (Or.inr ⟨value, Or.inr ⟨missing, lenient, rfl⟩⟩)) rfl
  | memory op found =>
    simp only [instruction, written]
    exact one_register_eq_ok_iff.mpr ⟨_, found, rfl⟩
  | stream op found =>
    simp only [instruction, written]
    exact one_register_eq_ok_iff.mpr ⟨_, found, rfl⟩
  | alu op left right =>
    simp only [instruction, written]
    exact two_registers_eq_ok_iff.mpr ⟨_, _, left, right, rfl⟩
  | compare op left right =>
    simp only [instruction, written]
    exact two_registers_eq_ok_iff.mpr ⟨_, _, left, right, rfl⟩

theorem instruction_eq_ok_iff {e : Emission codecs} {m : Mnemonic} {s : Statement} {i : Instruction} :
    (e.instruction m s).outcome = .ok i ↔ Denotes e m s.args i :=
  ⟨denotes_of_instruction, Denotes.instruction_eq⟩

theorem encode_eq_ok_iff {e : Emission codecs} {s : Statement} {bytes : Bytes} (other : s.mnemonic ≠ dataWord) :
    (e.encode s).outcome = .ok bytes ↔
      ∃ m i, s.mnemonic = m.name ∧ Denotes e m s.args i ∧ bytes = i.bytes := by
  simp only [encode, if_neg other]
  cases known : Mnemonic.ofName? s.mnemonic with
  | none =>
    simp only [Run.outcome_fail, reduceCtorEq, false_iff]
    rintro ⟨m, i, name, _⟩
    rw [Mnemonic.ofName?_eq_some_iff.mpr name] at known
    cases known
  | some m =>
    have name := Mnemonic.ofName?_eq_some_iff.mp known
    simp only [Run.bind_eq_ok_iff, instruction_eq_ok_iff, Run.outcome_pure, Except.ok.injEq]
    constructor
    · rintro ⟨i, denotes, rfl⟩
      exact ⟨m, i, name, denotes, rfl⟩
    · rintro ⟨n, i, same, denotes, rfl⟩
      have equal : m = n :=
        Option.some.inj (known.symm.trans (Mnemonic.ofName?_eq_some_iff.mpr same))
      exact ⟨i, equal ▸ denotes, rfl⟩

end Emission

end SledeCode
