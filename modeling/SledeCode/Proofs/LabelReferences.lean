import SledeCode.Proofs.EncodedFields
import SledeCode.Proofs.EntryBytes

namespace SledeCode

variable {codecs : Codecs}

/-- Whether a line of source defines the label. -/
def Line.defines (name raw : Text) : Bool :=
  Line.kind (Text.trim raw) = .label && Line.labelName (Text.trim raw) == name

/-- Looking a name up after the values were changed finds the changed value. -/
theorem lookup_map_snd {α β : Type} (f : α → β) (name : Text) (bindings : List (Text × α)) :
    (bindings.map fun b => (b.1, f b.2)).lookup name = (bindings.lookup name).map f := by
  induction bindings with
  | nil => rfl
  | cons b rest ih =>
    obtain ⟨first, value⟩ := b
    rw [List.map_cons, List.lookup_cons, List.lookup_cons, ih]
    cases name == first <;> rfl

namespace Layout

theorem labelLines_cons_of_label {raw : Text} (label : Line.kind (Text.trim raw) = .label) (n : Nat)
    (rest : List Text) :
    labelLines n (raw :: rest) = (Line.labelName (Text.trim raw), n) :: labelLines (n + 1) rest := by
  simp [labelLines, List.zipIdx_cons, label]

theorem labelLines_cons_of_other {raw : Text} (other : Line.kind (Text.trim raw) ≠ .label) (n : Nat)
    (rest : List Text) : labelLines n (raw :: rest) = labelLines (n + 1) rest := by
  simp [labelLines, List.zipIdx_cons, other]

/-- The first of the label lines with a name is the first line that defines the name. -/
theorem lookup_labelLines (n : Nat) (name : Text) (lines : List Text) :
    (labelLines n lines).lookup name = (lines.findIdx? (Line.defines name)).map (n + ·) := by
  induction lines generalizing n with
  | nil => rfl
  | cons raw rest ih =>
    have later : ((rest.findIdx? (Line.defines name)).map (· + 1)).map (n + ·) =
        (rest.findIdx? (Line.defines name)).map (n + 1 + ·) := by
      rw [Option.map_map]
      congr 1
      funext k
      simp only [Function.comp_apply]
      omega
    rw [List.findIdx?_cons]
    by_cases label : Line.kind (Text.trim raw) = .label
    · rw [labelLines_cons_of_label label, List.lookup_cons]
      by_cases same : Line.labelName (Text.trim raw) = name
      · simp [Line.defines, label, same]
      · have different : (name == Line.labelName (Text.trim raw)) = false := by
          simpa using fun equal => same equal.symm
        have skipped : Line.defines name raw = false := by simp [Line.defines, same]
        rw [different, skipped, ih]
        exact later.symm
    · have skipped : Line.defines name raw = false := by simp [Line.defines, label]
      rw [labelLines_cons_of_other label, skipped, ih]
      exact later.symm

/-- A name is bound to the address that the records before its first definition lead to, wherever
in the source that definition stands. -/
theorem find?_labels (s : Settings codecs) (source name : Text) :
    (ofSource s source).labels.find? name = ((Text.lines source).findIdx? (Line.defines name)).map
      fun line => (advanceBefore s (ofSource s source).records (line + 1) : Int) := by
  have bindings := bindingsOf_eq s 1 0 (Text.lines source)
  simp only [Int.natCast_zero, Int.zero_add] at bindings
  show (bindingsOf s 1 0 (Text.lines source)).lookup name = _
  rw [bindings, lookup_map_snd (fun line => (advanceBefore s (recordsOf s 1 0 (Text.lines source)) line : Int)),
    lookup_labelLines, Option.map_map]
  simp only [Function.comp_def, Nat.add_comm 1]
  rfl

end Layout

namespace Emission

/-- Under strict labels an address operand that is no number stands for the binding of a label. -/
theorem Denotes.label_bound {e : Emission codecs} {op : AddressOp} {target : Text} {i : Instruction}
    (denotes : Denotes e (.address op) [target] i) (strict : e.options.strictLabels = true)
    (symbolic : Operand.value? target = .ok none) :
    ∃ a : Address, i = .address op a ∧ e.labels.find? target = some (a.val : Int) := by
  cases denotes with
  | number op value =>
    rw [symbolic] at value
    cases value
  | label op _ bound => exact ⟨_, rfl, bound⟩
  | unbound op _ _ lenient =>
    rw [strict] at lenient
    cases lenient

end Emission

namespace Assembly

theorem IsBuiltFrom.labels_eq {s : Settings codecs} {source : Text} {p : Program} {pieces : List Piece}
    (built : IsBuiltFrom s source p pieces) : p.labels = (Layout.ofSource s source).labels := by
  rw [built.program]
  rfl

/-- A label reference resolves to the first definition of the label, wherever it stands: the
source has a line that defines the label, and the address field of the emitted word is the sum of
the advances of the records on the lines before the first such line. -/
theorem label_reference_resolves {s : Settings codecs} {source file : Text} {p : Program}
    (strict : s.strictLabels = true) (done : (assemble s source file).outcome = .ok p)
    {k : Nat} {entry : Entry} (found : p.entries[k]? = some entry) {op : AddressOp} {target : Text}
    (read : Statement.read entry.raw = ⟨op.name, [target]⟩) (symbolic : Operand.value? target = .ok none) :
    ∃ line opcode param,
      (Text.lines source).findIdx? (Line.defines target) = some line ∧
      p.bytesOf k = [opcode, param] ∧
      Word.addressField (Word.ofBytes opcode param) =
        Layout.advanceBefore s (Layout.ofSource s source).records (line + 1) := by
  obtain ⟨pieces, built⟩ := exists_isBuiltFrom done
  have encoded := built.encode_entry found
  have other : (Statement.read entry.raw).mnemonic ≠ dataWord := by
    rw [read]
    exact (Mnemonic.address op).name_ne_dataWord
  obtain ⟨m, i, name, denotes, bytes⟩ := (Emission.encode_eq_ok_iff other).mp encoded
  have known : m = .address op := by
    rw [read] at name
    exact Option.some.inj ((Mnemonic.ofName?_eq_some_iff.mpr name).symm.trans (Mnemonic.ofName?_name (.address op)))
  subst known
  rw [read] at denotes
  obtain ⟨a, rfl, bound⟩ := denotes.label_bound strict symbolic
  rw [built.labels_eq, Layout.find?_labels] at bound
  obtain ⟨line, first, address⟩ := Option.map_eq_some_iff.mp bound
  obtain ⟨opcode, param, same⟩ := (Instruction.address op a).exists_bytes
  refine ⟨line, opcode, param, first, bytes.trans same, ?_⟩
  rw [← Instruction.word_of_bytes same, Instruction.addressField_address, address]

/-- A label that is defined twice, between a reference from before and one from behind: both go
to the first definition, two bytes into the program. -/
theorem label_reference_resolves_both_ways : ∃ p : Program,
    (assemble .standard "HOPP slutt\n; midt\nslutt:\nNOPE\nslutt:\nTUR slutt".toList "<input>".toList).outcome = .ok p ∧
      p.labels.bindings = [("slutt".toList, 2), ("slutt".toList, 4)] ∧
      (∃ opcode param, p.bytesOf 0 = [opcode, param] ∧ Word.addressField (Word.ofBytes opcode param) = 2) ∧
      ∃ opcode param, p.bytesOf 2 = [opcode, param] ∧ Word.addressField (Word.ofBytes opcode param) = 2 := by
  let source := "HOPP slutt\n; midt\nslutt:\nNOPE\nslutt:\nTUR slutt".toList
  have done : (assemble .standard source "<input>".toList).outcome = .ok
      ⟨magic ++ [0x28, 0, 0x0C, 0, 0x2A, 0],
        [⟨0, 1, "HOPP slutt".toList, 2⟩, ⟨2, 4, "NOPE".toList, 2⟩, ⟨4, 6, "TUR slutt".toList, 2⟩],
        ⟨[("slutt".toList, 2), ("slutt".toList, 4)]⟩⟩ := by
    decide +kernel
  have symbolic : Operand.value? "slutt".toList = .ok none := by decide
  have address {line : Nat} (first : (Text.lines source).findIdx? (Line.defines "slutt".toList) = some line) :
      Layout.advanceBefore .standard (Layout.ofSource .standard source).records (line + 1) = 2 := by
    have third : (Text.lines source).findIdx? (Line.defines "slutt".toList) = some 2 := by decide +kernel
    rw [← Option.some.inj (third.symm.trans first)]
    decide +kernel
  have forward : Statement.read "HOPP slutt".toList = ⟨AddressOp.hopp.name, ["slutt".toList]⟩ := by decide
  have backward : Statement.read "TUR slutt".toList = ⟨AddressOp.tur.name, ["slutt".toList]⟩ := by decide
  obtain ⟨line, opcode, param, first, bytes, field⟩ :=
    label_reference_resolves rfl done (k := 0) rfl forward symbolic
  obtain ⟨line', opcode', param', first', bytes', field'⟩ :=
    label_reference_resolves rfl done (k := 2) rfl backward symbolic
  rw [address first] at field
  rw [address first'] at field'
  exact ⟨_, done, rfl, ⟨opcode, param, bytes, field⟩, opcode', param', bytes', field'⟩

end Assembly

end SledeCode
