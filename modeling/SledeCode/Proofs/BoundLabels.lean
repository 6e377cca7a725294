import SledeCode.Proofs.LabelDependence

namespace SledeCode

variable {codecs : Codecs}

namespace LabelTable

theorem resolve_of_find? {t : LabelTable} {name : Text} {a : Int} (found : t.find? name = some a) :
    t.resolve name = a := by
  rw [resolve, found, Option.getD_some]

/-- The address that stands for a missing binding is also that of a name bound to it. -/
theorem resolve_eq_undefined_iff {t : LabelTable} {name : Text} :
    t.resolve name = undefined ↔ t.find? name = none ∨ t.find? name = some undefined := by
  rw [resolve]
  cases t.find? name with
  | none => simp
  | some a => simp

end LabelTable

namespace Emission

/-- A reference to a name is encoded by the address: the word has it in its address field if it fits
there, and otherwise it is reported as out of range. There is no warning in either case. -/
def EncodesAddress (e : Emission codecs) (op : AddressOp) (name : Text) (a : Int) : Prop :=
  (0 ≤ a ∧ a ≤ 4095 → ∃ target : Address, Word.addressField (Instruction.address op target).word = a ∧
      e.encode ⟨op.name, [name]⟩ = pure (Instruction.address op target).bytes) ∧
    (¬ (0 ≤ a ∧ a ≤ 4095) → e.encode ⟨op.name, [name]⟩ = .fail (.ofCause (.outOfRange name a 4095)))

/-- A reference to a name is treated as one to a label that does not exist: strict labels refuse it, and
otherwise the word has the last address, with a warning. -/
def TakesAsUndefined (e : Emission codecs) (op : AddressOp) (name : Text) : Prop :=
  e.encode ⟨op.name, [name]⟩ =
    if e.options.strictLabels then
      .fail (.ofCause (.undefinedLabel name (Text.closeMatches name e.labels.names)))
    else ⟨[.undefinedLabel name], .ok (Instruction.address op ⟨4095, by decide⟩).bytes⟩

variable {e : Emission codecs} {op : AddressOp} {name : Text}

theorem encodesAddress_of_defined (symbolic : Operand.value? name = .ok none) {a : Int}
    (bound : e.labels.resolve name = a) (other : a ≠ LabelTable.undefined) : e.EncodesAddress op name a := by
  have encoded : e.encode ⟨op.name, [name]⟩ =
      inRange name a 4095 >>= fun target => pure (Instruction.address op target).bytes := by
    rw [encode_address, address_of_bound symbolic (bound ▸ other), bound]
  refine ⟨fun fits => ?_, fun outside => ?_⟩
  · refine ⟨⟨a.toNat, by omega⟩, ?_, ?_⟩
    · rw [Instruction.addressField_address]
      exact Int.toNat_of_nonneg fits.1
    · rw [encoded, inRange_of_fits fits, pure_bind]
  · rw [encoded, inRange_of_outside outside, Run.fail_bind]
    rfl

theorem takesAsUndefined_of_undefined (symbolic : Operand.value? name = .ok none)
    (undefined : e.labels.resolve name = LabelTable.undefined) : e.TakesAsUndefined op name := by
  rw [TakesAsUndefined, encode_address, address_of_unbound symbolic undefined]
  split
  · rw [Run.fail_bind]
  · rfl

/-- No reference is treated in both ways. -/
theorem TakesAsUndefined.not_encodesAddress (undefined : e.TakesAsUndefined op name) (a : Int)
    (encodes : e.EncodesAddress op name a) : False := by
  by_cases fits : 0 ≤ a ∧ a ≤ 4095
  · obtain ⟨target, _, encoded⟩ := encodes.1 fits
    rw [undefined] at encoded
    split at encoded
    · cases congrArg Run.outcome encoded
    · cases congrArg Run.notes encoded
  · have refused := encodes.2 fits
    rw [undefined] at refused
    split at refused
    · cases congrArg Run.outcome refused
    · cases congrArg Run.outcome refused

/-- A label that is bound is encoded by the address of its first binding exactly if that is not the
address that stands for a missing binding; and it is a name without a binding, or one first bound to
that very address, that is treated as undefined. -/
theorem bound_label_encoded_iff (symbolic : Operand.value? name = .ok none) :
    (∀ a, e.labels.find? name = some a → (e.EncodesAddress op name a ↔ a ≠ LabelTable.undefined)) ∧
      (e.TakesAsUndefined op name ↔
        e.labels.find? name = none ∨ e.labels.find? name = some LabelTable.undefined) := by
  constructor
  · intro a bound
    have resolved := LabelTable.resolve_of_find? bound
    refine ⟨fun encodes collides => ?_, encodesAddress_of_defined symbolic resolved⟩
    have undefined : e.TakesAsUndefined op name := takesAsUndefined_of_undefined symbolic (resolved.trans collides)
    exact undefined.not_encodesAddress a encodes
  · rw [← LabelTable.resolve_eq_undefined_iff]
    refine ⟨fun undefined => ?_, takesAsUndefined_of_undefined symbolic⟩
    by_contra defined
    exact undefined.not_encodesAddress _ (encodesAddress_of_defined symbolic rfl defined)

/-- Of two bindings the first counts, although only the second is in range; and the last address is one
like any other if a label is bound to it. -/
theorem bound_label_encoded_first :
    let e : Emission .standard :=
      ⟨⟨[("slutt".toList, 0x10000), ("slutt".toList, 3), ("start".toList, 0xFFF)]⟩, .standard⟩
    e.encode ⟨"HOPP".toList, ["slutt".toList]⟩ = .fail (.ofCause (.outOfRange "slutt".toList 0x10000 4095)) ∧
      (∃ target : Address, Word.addressField (Instruction.address .finn target).word = 0xFFF ∧
        e.encode ⟨"FINN".toList, ["start".toList]⟩ = pure (Instruction.address .finn target).bytes) ∧
      e.TakesAsUndefined .hopp "borte".toList := by
  intro e
  have slutt : e.EncodesAddress .hopp "slutt".toList 0x10000 :=
    ((bound_label_encoded_iff (by decide)).1 0x10000 (by decide)).mpr (by decide)
  have start : e.EncodesAddress .finn "start".toList 0xFFF :=
    ((bound_label_encoded_iff (by decide)).1 0xFFF (by decide)).mpr (by decide)
  have borte : e.TakesAsUndefined .hopp "borte".toList :=
    (bound_label_encoded_iff (by decide)).2.mpr (Or.inl (by decide))
  exact ⟨slutt.2 (by decide), start.1 (by decide), borte⟩

/-- A label bound to the address that stands for a missing binding: strict labels call it undefined and
offer its own name instead, and lenient ones give the last address. -/
theorem bound_label_called_undefined :
    let labels : LabelTable := ⟨[("slutt".toList, 0xFFFF)]⟩
    let strict : Emission .standard := ⟨labels, .standard⟩
    let lenient : Emission .standard := ⟨labels, ⟨false, false, "latin-1".toList⟩⟩
    let statement : Statement := ⟨"HOPP".toList, ["slutt".toList]⟩
    labels.find? "slutt".toList = some 0xFFFF ∧
      (strict.encode statement).outcome =
        .error (.ofCause (.undefinedLabel "slutt".toList ["slutt".toList])) ∧
      (lenient.encode statement).outcome = .ok [0xF8, 0xFF] ∧
      (lenient.encode statement).notes = [.undefinedLabel "slutt".toList] := by
  decide +kernel

end Emission

end SledeCode
