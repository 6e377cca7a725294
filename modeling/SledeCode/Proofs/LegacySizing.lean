import SledeCode.Proofs.CharacterBytes
import SledeCode.Proofs.EntryBytes
import SledeCode.Proofs.LabelDependence

namespace SledeCode

variable {codecs : Codecs}

theorem Operand.string?_ne_nil (arg : Text) : string? arg ≠ some [] := by
  unfold string?
  split
  · simp
  · dsimp only
    split
    · rename_i content
      simpa using content.2.1
    · simp

namespace Layout

variable {s : Settings codecs}

theorem one_le_argSize (ample : s.codec.IsAmple) (arg : Text) : 1 ≤ argSize s arg := by
  unfold argSize
  split
  · rename_i t content
    have nonempty : t ≠ [] := by
      rintro rfl
      exact Operand.string?_ne_nil arg content
    exact Nat.le_trans (List.length_pos_iff.mpr nonempty) (Settings.length_le_size ample t)
  · exact Nat.le_refl 1

/-- Every operand of a data line takes a byte or more. -/
theorem length_le_dataSize (ample : s.codec.IsAmple) (args : List Text) : args.length ≤ dataSize s args :=
  length_le_total_map (fun arg _ => one_le_argSize ample arg)

/-- Counting operands never moves the address on further than counting bytes. -/
theorem advance_le_of_exact {legacy exact : Settings codecs} (ample : exact.codec.IsAmple)
    (off : exact.legacySizing = false) (encoding : legacy.encodingName = exact.encodingName) (line : Text) :
    advance legacy line ≤ advance exact line := by
  unfold advance
  split
  · exact Nat.le_refl 2
  · dsimp only
    rw [off, dataSize_congr encoding]
    split
    · exact length_le_dataSize ample _
    · exact Nat.le_refl _
  · exact Nat.le_refl 0

end Layout

/-- The record of the same line, at an address that is not higher. -/
structure Record.IsMovedDown (moved r : Record) : Prop where
  line_eq : moved.line = r.line
  raw_eq : moved.raw = r.raw
  address_le : moved.address ≤ r.address

namespace Layout

/-- Where every line moves the address on by no more, the same lines are recorded and the same names
are bound in the same order, none of them at a higher address. -/
theorem forall₂_of_advance_le {s t : Settings codecs} (less : ∀ line, advance s line ≤ advance t line) {a b : Nat}
    (start : a ≤ b) (n : Nat) (lines : List Text) :
    List.Forall₂ Record.IsMovedDown (recordsOf s n a lines) (recordsOf t n b lines) ∧
      List.Forall₂ (fun moved label => moved.1 = label.1 ∧ moved.2 ≤ label.2) (bindingsOf s n a lines)
        (bindingsOf t n b lines) := by
  induction lines generalizing n a b with
  | nil => exact ⟨.nil, .nil⟩
  | cons raw rest ih =>
    cases record : (Line.kind (Text.trim raw)).isRecord with
    | true =>
      obtain ⟨_, _, records, bindings⟩ := scan_cons_of_isRecord record s n a rest
      obtain ⟨_, _, records', bindings'⟩ := scan_cons_of_isRecord record t n b rest
      obtain ⟨below, labels⟩ := ih (Nat.add_le_add start (less (Text.trim raw))) (n + 1)
      rw [records, records', bindings, bindings']
      exact ⟨.cons ⟨rfl, rfl, start⟩ below, labels⟩
    | false =>
      obtain ⟨below, labels⟩ := ih start (n + 1)
      by_cases label : Line.kind (Text.trim raw) = .label
      · obtain ⟨_, _, records, bindings⟩ := scan_cons_of_label label s n a rest
        obtain ⟨_, _, records', bindings'⟩ := scan_cons_of_label label t n b rest
        rw [records, records', bindings, bindings']
        exact ⟨below, .cons ⟨rfl, Int.ofNat_le.mpr start⟩ labels⟩
      · obtain ⟨_, _, records, bindings⟩ := scan_cons_of_other record label s n a rest
        obtain ⟨_, _, records', bindings'⟩ := scan_cons_of_other record label t n b rest
        rw [records, records', bindings, bindings']
        exact ⟨below, labels⟩

end Layout

/-- Two encodings of a statement differ at most in the address of the label that it refers to. -/
structure Statement.SameUpToLabel (s : Statement) (bytes other : Bytes) : Prop where
  equal : (∀ name, ¬ s.RefersTo name) → bytes = other
  operationClass : ∀ name, s.RefersTo name → ∃ opcode param opcode' param',
    bytes = [opcode, param] ∧ other = [opcode', param'] ∧
      Word.operationClass (Word.ofBytes opcode param) = Word.operationClass (Word.ofBytes opcode' param')

theorem Statement.SameUpToLabel.length_eq {s : Statement} {bytes other : Bytes}
    (same : s.SameUpToLabel bytes other) : bytes.length = other.length := by
  by_cases refers : ∃ name, s.RefersTo name
  · obtain ⟨name, reference⟩ := refers
    obtain ⟨_, _, _, _, rfl, rfl, _⟩ := same.operationClass name reference
    rfl
  · rw [same.equal (fun name reference => refers ⟨name, reference⟩)]

namespace Emission

/-- What is encoded for a label reference has the operation class of the mnemonic. -/
theorem operationClass_of_encode {e : Emission codecs} {op : AddressOp} {operand : Text} {bytes : Bytes}
    (done : (e.encode ⟨op.name, [operand]⟩).outcome = .ok bytes) : ∃ opcode param, bytes = [opcode, param] ∧
      Word.operationClass (Word.ofBytes opcode param) = op.operationClass.number := by
  rw [encode_address] at done
  obtain ⟨a, _, same⟩ := Run.bind_eq_ok_iff.mp done
  obtain ⟨opcode, param, pair⟩ := (Instruction.address op a).exists_bytes
  refine ⟨opcode, param, (Except.ok.inj same).symm.trans pair, ?_⟩
  rw [← Instruction.word_of_bytes pair, Instruction.operationClass_word]
  rfl

/-- Two label tables matter to a statement only in the label that it refers to. -/
theorem sameUpToLabel_of_encode {e e' : Emission codecs} (encoding : e.options.encodingName = e'.options.encodingName)
    {s : Statement} {bytes other : Bytes} (done : (e.encode s).outcome = .ok bytes)
    (done' : (e'.encode s).outcome = .ok other) : s.SameUpToLabel bytes other where
  equal free := by
    rw [encode_eq_of_not_refersTo encoding free] at done
    exact Except.ok.inj (done.symm.trans done')
  operationClass name refers := by
    obtain ⟨op, rfl, _⟩ := refers
    obtain ⟨opcode, param, pair, number⟩ := operationClass_of_encode done
    obtain ⟨opcode', param', pair', number'⟩ := operationClass_of_encode done'
    exact ⟨opcode, param, opcode', param', pair, pair', number.trans number'.symm⟩

end Emission

/-- Two pieces of one source line, whose bytes differ at most in the address of a label. -/
structure Piece.Matches (p q : Piece) : Prop where
  line_eq : p.record.line = q.record.line
  raw_eq : p.record.raw = q.record.raw
  bytes : (Statement.read q.record.raw).SameUpToLabel p.bytes q.bytes

namespace Assembly

theorem matches_of_encoded {e e' : Emission codecs} (encoding : e.options.encodingName = e'.options.encodingName)
    {ps qs : List Piece} (moved : List.Forall₂ (fun p q => p.record.IsMovedDown q.record) ps qs)
    (encoded : ∀ p ∈ ps, (e.encode (Statement.read p.record.raw)).outcome = .ok p.bytes)
    (encoded' : ∀ q ∈ qs, (e'.encode (Statement.read q.record.raw)).outcome = .ok q.bytes) :
    List.Forall₂ Piece.Matches ps qs := by
  induction moved with
  | nil => exact .nil
  | cons down _ ih =>
    obtain ⟨here, later⟩ := List.forall_mem_cons.mp encoded
    obtain ⟨here', later'⟩ := List.forall_mem_cons.mp encoded'
    rw [down.raw_eq] at here
    exact .cons ⟨down.line_eq, down.raw_eq, Emission.sameUpToLabel_of_encode encoding here here'⟩ (ih later later')

/-- Legacy sizing moves labels, and nothing else, under any codec that spends a byte or more on each
character. The same lines are recorded and the same names are bound in the same order, none of them at a
higher address than in exact sizing. If the source assembles both ways, its lines have the same sizes,
and only the address of a label that a line refers to can differ in its bytes. -/
theorem legacy_sizing_moves_only_labels {exact legacy : Settings codecs} (ample : exact.codec.IsAmple)
    (off : exact.legacySizing = false)
    (same : legacy.toOptions = { exact.toOptions with legacySizing := true }) (source file : Text) :
    List.Forall₂ Record.IsMovedDown (Layout.ofSource legacy source).records (Layout.ofSource exact source).records ∧
    List.Forall₂ (fun moved label => moved.1 = label.1 ∧ moved.2 ≤ label.2)
      (Layout.ofSource legacy source).labels.bindings (Layout.ofSource exact source).labels.bindings ∧
    ∀ p q, (assemble legacy source file).outcome = .ok p → (assemble exact source file).outcome = .ok q →
      p.body.length = q.body.length ∧
      (p.entries.map fun e => (e.line, e.raw, e.size)) = (q.entries.map fun e => (e.line, e.raw, e.size)) ∧
      ∀ (k : Nat) (entry : Entry), q.entries[k]? = some entry →
        (Statement.read entry.raw).SameUpToLabel (p.bytesOf k) (q.bytesOf k) := by
  have encoding : legacy.encodingName = exact.encodingName := by rw [same]
  obtain ⟨records, labels⟩ := Layout.forall₂_of_advance_le
    (Layout.advance_le_of_exact ample off encoding) (Nat.le_refl 0) 1 (Text.lines source)
  refine ⟨records, labels, fun p q done done' => ?_⟩
  obtain ⟨ps, built⟩ := exists_isBuiltFrom done
  obtain ⟨qs, built'⟩ := exists_isBuiltFrom done'
  rw [← built.records, ← built'.records, List.forall₂_map_left_iff, List.forall₂_map_right_iff] at records
  have pieces : List.Forall₂ Piece.Matches ps qs := matches_of_encoded encoding records built.encoded built'.encoded
  have entries : (p.entries.map fun e => (e.line, e.raw, e.size)) =
      (q.entries.map fun e => (e.line, e.raw, e.size)) := by
    rw [built.entries_eq, built'.entries_eq, ← List.forall₂_eq_eq_eq]
    simp only [List.forall₂_map_left_iff, List.forall₂_map_right_iff]
    refine pieces.imp (fun p q pair => ?_)
    simp only [Piece.entry, pair.line_eq, pair.raw_eq, pair.bytes.length_eq]
  refine ⟨?_, entries, fun k entry found => ?_⟩
  · have sizes : p.entries.map Entry.size = q.entries.map Entry.size := by
      have both := congrArg (List.map fun e => e.2.2) entries
      rwa [List.map_map, List.map_map] at both
    rw [built.entries_eq, built'.entries_eq] at sizes
    have sums := congrArg List.sum sizes
    rw [sum_sizes, sum_sizes, ← built.body_eq, ← built'.body_eq] at sums
    exact Int.ofNat.inj sums
  · rw [built'.entries_eq, List.getElem?_map] at found
    obtain ⟨piece, atIndex, rfl⟩ := Option.map_eq_some_iff.mp found
    obtain ⟨bound, rfl⟩ := List.getElem?_eq_some_iff.mp atIndex
    have pair := pieces.get (pieces.length_eq ▸ bound) bound
    rw [built'.bytesOf_eq atIndex, built.bytesOf_eq (List.getElem?_eq_getElem (pieces.length_eq ▸ bound))]
    exact pair.bytes

/-- A text of three characters moves the label behind it from address 3 down to 1. The jump differs
in its address and not in its class, and the line after it does not differ. -/
theorem legacy_sizing_moves_only_labels_text : ∃ (legacy : Settings .standard) (p q : Program),
    legacy.toOptions = { Settings.standard.toOptions with legacySizing := true } ∧
      (assemble legacy ".DATA 'abc'\nslutt:\nHOPP slutt\nNOPE".toList "<input>".toList).outcome = .ok p ∧
      (assemble .standard ".DATA 'abc'\nslutt:\nHOPP slutt\nNOPE".toList "<input>".toList).outcome = .ok q ∧
      p.labels.bindings = [("slutt".toList, 1)] ∧ q.labels.bindings = [("slutt".toList, 3)] ∧
      p.body.length = q.body.length ∧
      (Statement.read "HOPP slutt".toList).SameUpToLabel (p.bytesOf 1) (q.bytesOf 1) ∧
      p.bytesOf 1 ≠ q.bytesOf 1 ∧
      (Statement.read "NOPE".toList).SameUpToLabel (p.bytesOf 2) (q.bytesOf 2) := by
  let legacy : Settings .standard := .latin1 true true
  let p : Program := ⟨magic ++ [97, 98, 99, 0x18, 0, 0x0C, 0],
    [⟨0, 1, ".DATA 'abc'".toList, 3⟩, ⟨1, 3, "HOPP slutt".toList, 2⟩, ⟨3, 4, "NOPE".toList, 2⟩],
    ⟨[("slutt".toList, 1)]⟩⟩
  let q : Program := ⟨magic ++ [97, 98, 99, 0x38, 0, 0x0C, 0],
    [⟨0, 1, ".DATA 'abc'".toList, 3⟩, ⟨3, 3, "HOPP slutt".toList, 2⟩, ⟨5, 4, "NOPE".toList, 2⟩],
    ⟨[("slutt".toList, 3)]⟩⟩
  have done : (assemble legacy ".DATA 'abc'\nslutt:\nHOPP slutt\nNOPE".toList "<input>".toList).outcome = .ok p := by
    decide +kernel
  have done' : (assemble .standard ".DATA 'abc'\nslutt:\nHOPP slutt\nNOPE".toList "<input>".toList).outcome = .ok q := by
    decide +kernel
  have same : legacy.toOptions = { Settings.standard.toOptions with legacySizing := true } := rfl
  obtain ⟨-, -, both⟩ := legacy_sizing_moves_only_labels (Encoding.isAmple_charset (.page .latin1)) rfl same
    ".DATA 'abc'\nslutt:\nHOPP slutt\nNOPE".toList "<input>".toList
  obtain ⟨lengths, -, bytes⟩ := both p q done done'
  exact ⟨legacy, p, q, same, done, done', rfl, rfl, lengths, bytes 1 _ rfl, by decide +kernel, bytes 2 _ rfl⟩

end Assembly

end SledeCode
