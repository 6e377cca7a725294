import SledeCode.Proofs.FirstFailure
import SledeCode.Proofs.LabelDependence

namespace SledeCode

variable {codecs : Codecs}

def Failure.isUndefinedLabel : Failure → Bool
  | .diagnostic d => d.cause.isUndefinedLabel
  | _ => false

@[simp] theorem Failure.isUndefinedLabel_locate (f : Failure) (place : Location) (raw : Text) :
    (f.locate place raw).isUndefinedLabel = f.isUndefinedLabel := by
  cases f <;> rfl

namespace Emission

/-- Two emissions over the same labels, of which the first fails where a label is undefined and
the second only takes a note. -/
structure IsStricter (strict lenient : Emission codecs) : Prop where
  labels : strict.labels = lenient.labels
  encoding : strict.options.encodingName = lenient.options.encodingName
  on : strict.options.strictLabels = true
  off : lenient.options.strictLabels = false
  lawful : ∃ codec, codecs.find strict.options.encodingName = .ok codec ∧ codec.IsLawful

variable {strict lenient : Emission codecs}

theorem IsStricter.encode_of_unbound (pair : IsStricter strict lenient) {s : Statement} {name : Text}
    (refers : s.RefersTo name) (unbound : strict.labels.resolve name = LabelTable.undefined) :
    (∃ f, (strict.encode s).outcome = .error f ∧ f.isUndefinedLabel = true) ∧
      ∃ bytes, lenient.encode s = ⟨[.undefinedLabel name], .ok bytes⟩ := by
  obtain ⟨op, rfl, read⟩ := refers
  rw [encode_address, encode_address, address_of_unbound read unbound,
    address_of_unbound read (pair.labels ▸ unbound), pair.on, pair.off]
  exact ⟨⟨_, rfl, rfl⟩, _, rfl⟩

theorem IsStricter.encode_of_bound (pair : IsStricter strict lenient) {s : Statement}
    (bound : ∀ name, s.RefersTo name → strict.labels.resolve name ≠ LabelTable.undefined) :
    strict.encode s = lenient.encode s := by
  by_cases refers : ∃ name, s.RefersTo name
  · obtain ⟨name, op, rfl, read⟩ := refers
    have defined := bound name ⟨op, rfl, read⟩
    rw [encode_address, encode_address, address_of_bound read defined,
      address_of_bound read (pair.labels ▸ defined), pair.labels]
  · exact encode_eq_of_not_refersTo pair.encoding (fun name refersTo => refers ⟨name, refersTo⟩)

/-- What strictness does to one statement: nothing at all, and then no label is called undefined; or
it turns the note on an undefined label into a failure. -/
theorem IsStricter.encode_cases (pair : IsStricter strict lenient) (s : Statement) :
    (strict.encode s = lenient.encode s ∧
      ∀ f, (strict.encode s).outcome = .error f → f.isUndefinedLabel = false) ∨
    ((∃ f, (strict.encode s).outcome = .error f ∧ f.isUndefinedLabel = true) ∧
      ∃ name bytes, lenient.encode s = ⟨[.undefinedLabel name], .ok bytes⟩) := by
  by_cases unbound : ∃ name, s.RefersTo name ∧ strict.labels.resolve name = LabelTable.undefined
  · obtain ⟨name, refers, missing⟩ := unbound
    obtain ⟨fails, goesOn⟩ := pair.encode_of_unbound refers missing
    exact Or.inr ⟨fails, name, goesOn⟩
  · refine Or.inl ⟨pair.encode_of_bound (fun name refers missing => unbound ⟨name, refers, missing⟩), ?_⟩
    intro f failed
    obtain ⟨codec, found, lawful⟩ := pair.lawful
    cases isFault_of_encode found lawful failed with
    | undefinedLabel similar refers missing => exact absurd ⟨_, refers, missing⟩ unbound
    | cause c other => exact other
    | overlong member long => rfl

end Emission

namespace Assembly

/-- Assembly fails, and the record on this line is the first that cannot be encoded. -/
structure FailsAt (s : Settings codecs) (source file : Text) (line : Nat) (f : Failure) : Prop where
  failed : (assemble s source file).outcome = .error f
  first : ∃ k r g, FailsFirst (recordBytes s source) (Layout.ofSource s source).records k r g ∧
    r.line = line ∧ f = g.locate ⟨file, line, 0⟩ r.raw

theorem failsAt_of_failsFirst {s : Settings codecs} {source : Text} {k : Nat} {r : Record} {g : Failure}
    (first : FailsFirst (recordBytes s source) (Layout.ofSource s source).records k r g) (file : Text) :
    FailsAt s source file r.line (g.locate ⟨file, r.line, 0⟩ r.raw) :=
  ⟨assemble_eq_error_iff.mpr ⟨k, r, g, first, rfl⟩, k, r, g, first, rfl, rfl⟩

theorem FailsAt.location_eq {s : Settings codecs} {source file : Text} {line : Nat} {d : Diagnostic}
    (fails : FailsAt s source file line (.diagnostic d)) : d.location = some ⟨file, line, 0⟩ := by
  obtain ⟨_, _, cause, _, _, placed⟩ := fails.first
  cases cause with
  | diagnostic unplaced =>
    cases placed
    rfl
  | _ => cases placed

/-- What is noted while a record is encoded is among the notes of the whole. -/
theorem mem_notes_emitRecords {e : Emission codecs} {file : Text} {offset : Nat} {rs : List Record} {pieces : List Piece}
    (done : (emitRecords e file offset rs).outcome = .ok pieces) {r : Record} (member : r ∈ rs) {n : Note}
    (taken : n ∈ (e.encode (Statement.read r.raw)).notes) : n ∈ (emitRecords e file offset rs).notes := by
  induction rs generalizing offset pieces with
  | nil => simp at member
  | cons first rest ih =>
    obtain ⟨bytes, others, encoded, later, rfl⟩ := emitRecords_cons_eq_ok_iff.mp done
    rw [emitRecords]
    rcases List.mem_cons.mp member with rfl | listed
    · exact Run.mem_notes_bind_iff.mpr (Or.inl taken)
    · refine Run.mem_notes_bind_iff.mpr (Or.inr ⟨bytes, emitRecord_eq_ok_iff.mpr encoded, ?_⟩)
      have among : n ∈ (do
          let others ← emitRecords e file (offset + bytes.length) rest
          pure (⟨first, bytes⟩ :: others) : Run (List Piece)).notes :=
        Run.mem_notes_bind_iff.mpr (Or.inl (ih later listed))
      dsimp only
      split
      · exact Run.mem_notes_bind_iff.mpr (Or.inr ⟨_, rfl, among⟩)
      · exact among

theorem mem_notes_assemble {s : Settings codecs} {source file : Text} {p : Program}
    (done : (assemble s source file).outcome = .ok p) {r : Record} (member : r ∈ (Layout.ofSource s source).records)
    {n : Note} (taken : n ∈ ((s.emission (Layout.ofSource s source).labels).encode
      (Statement.read r.raw)).notes) : n ∈ (assemble s source file).notes := by
  obtain ⟨pieces, records, encoded, -⟩ := assemble_eq_ok_iff.mp done
  have emitted : (emitRecords (s.emission (Layout.ofSource s source).labels) file 0
      (Layout.ofSource s source).records).outcome = .ok pieces := emitRecords_eq_ok_iff.mpr ⟨records, encoded⟩
  refine Run.mem_notes_bind_iff.mpr (Or.inr ⟨Layout.ofSource s source, rfl, ?_⟩)
  exact Run.mem_notes_bind_iff.mpr (Or.inl (mem_notes_emitRecords emitted member taken))

section Settings

variable {strict lenient : Settings codecs}

theorem ofSource_eq_of_same (same : lenient.toOptions = { strict.toOptions with strictLabels := false })
    (source : Text) : Layout.ofSource strict source = Layout.ofSource lenient source := by
  have sizing : strict.legacySizing = lenient.legacySizing := by rw [same]
  have encoding : strict.encodingName = lenient.encodingName := by rw [same]
  exact Layout.ofSource_congr (Layout.advance_congr sizing encoding) source

theorem isStricter_of_same (on : strict.strictLabels = true)
    (same : lenient.toOptions = { strict.toOptions with strictLabels := false }) (source : Text) :
    Emission.IsStricter (strict.emission (Layout.ofSource strict source).labels)
      (lenient.emission (Layout.ofSource lenient source).labels) where
  labels := by rw [ofSource_eq_of_same same]
  encoding := (congrArg Options.encodingName same).symm
  on := on
  off := congrArg Options.strictLabels same
  lawful := ⟨_, strict.found, strict.lawful⟩

/-- For one record: what strict labels accept is not changed without them, nor is a failure for
another reason; and an undefined label is no failure without them. -/
theorem recordBytes_cases (on : strict.strictLabels = true)
    (same : lenient.toOptions = { strict.toOptions with strictLabels := false }) (source : Text) (r : Record) :
    (∀ bytes, recordBytes strict source r = .ok bytes → recordBytes lenient source r = .ok bytes) ∧
      ∀ f, recordBytes strict source r = .error f →
        if f.isUndefinedLabel then ∃ bytes, recordBytes lenient source r = .ok bytes
        else recordBytes lenient source r = .error f := by
  rcases (isStricter_of_same on same source).encode_cases (Statement.read r.raw) with
    ⟨equal, other⟩ | ⟨⟨g, fails, undefined⟩, name, bytes, goesOn⟩
  · have agree : recordBytes strict source r = recordBytes lenient source r := congrArg Run.outcome equal
    refine ⟨fun bytes done => agree ▸ done, fun f failed => ?_⟩
    rw [other f failed, ← agree]
    exact failed
  · refine ⟨fun bytes done => ?_, fun f failed => ?_⟩
    · cases fails.symm.trans done
    · cases fails.symm.trans failed
      rw [undefined]
      exact ⟨bytes, congrArg Run.outcome goesOn⟩

/-- Without strict labels, assembly passes the line where an undefined label stopped it, and every
line before. -/
theorem failsAt_later (on : strict.strictLabels = true)
    (same : lenient.toOptions = { strict.toOptions with strictLabels := false }) {source file : Text}
    {n m : Nat} {f g : Failure} (stopped : FailsAt strict source file n f) (undefined : f.isUndefinedLabel = true)
    (fails : FailsAt lenient source file m g) : n < m := by
  obtain ⟨k, r, cause, first, rfl, rfl⟩ := stopped.first
  obtain ⟨j, later, _, second, rfl, -⟩ := fails.first
  rw [Failure.isUndefinedLabel_locate] at undefined
  have passed := (recordBytes_cases on same source r).2 cause first.fails
  rw [undefined] at passed
  rw [← ofSource_eq_of_same same] at second
  have before := first.lt_of_passed (fun y => (recordBytes_cases on same source y).1) passed second
  exact Layout.line_lt_of_index first.found second.found before

/-- Strict labels only reject, and change nothing in what they accept. What assembles with them
assembles without them to the same program, and conversely if no undefined label is noted. What
fails with them for another reason fails without them at the same line and for the same reason.
What fails at an undefined label assembles without them, or fails at a later line. -/
theorem strict_labels_only_reject (on : strict.strictLabels = true)
    (same : lenient.toOptions = { strict.toOptions with strictLabels := false }) (source file : Text) :
    (∀ p, (assemble strict source file).outcome = .ok p → (assemble lenient source file).outcome = .ok p) ∧
    (∀ p, (assemble lenient source file).outcome = .ok p →
      (∀ name, .undefinedLabel name ∉ (assemble lenient source file).notes) →
      (assemble strict source file).outcome = .ok p) ∧
    ∀ f, (assemble strict source file).outcome = .error f → ∃ n, FailsAt strict source file n f ∧
      (f.isUndefinedLabel = false → FailsAt lenient source file n f) ∧
      (f.isUndefinedLabel = true → (∃ p, (assemble lenient source file).outcome = .ok p) ∨
        ∃ m g, FailsAt lenient source file m g ∧ n < m) := by
  have layout := ofSource_eq_of_same same source
  refine ⟨?_, ?_, ?_⟩
  · intro p done
    obtain ⟨pieces, records, encoded, rfl⟩ := assemble_eq_ok_iff.mp done
    rw [layout] at records
    exact assemble_eq_ok_iff.mpr ⟨pieces, records,
      fun piece member => (recordBytes_cases on same source piece.record).1 _ (encoded piece member), by rw [layout]⟩
  · intro p done unnoted
    obtain ⟨pieces, records, encoded, rfl⟩ := assemble_eq_ok_iff.mp done
    refine assemble_eq_ok_iff.mpr ⟨pieces, layout ▸ records, fun piece member => ?_, by rw [layout]⟩
    rcases (isStricter_of_same on same source).encode_cases (Statement.read piece.record.raw) with
      ⟨equal, -⟩ | ⟨-, name, bytes, noted⟩
    · rw [equal]
      exact encoded piece member
    · have listed : piece.record ∈ (Layout.ofSource lenient source).records := by
        rw [← records]
        exact List.mem_map_of_mem member
      exact absurd (mem_notes_assemble done listed (by simp [noted])) (unnoted name)
  · intro f failed
    obtain ⟨k, r, g, first, rfl⟩ := assemble_eq_error_iff.mp failed
    have stopped := failsAt_of_failsFirst first file
    refine ⟨r.line, stopped, fun other => ?_, fun undefined => ?_⟩
    · rw [Failure.isUndefinedLabel_locate] at other
      have fails := (recordBytes_cases on same source r).2 g first.fails
      rw [other] at fails
      have again := first.transfer (fun y => (recordBytes_cases on same source y).1) fails
      rw [layout] at again
      exact failsAt_of_failsFirst again file
    · cases outcome : (assemble lenient source file).outcome with
      | ok p => exact Or.inl ⟨p, rfl⟩
      | error f' =>
        obtain ⟨_, r', g', second, rfl⟩ := assemble_eq_error_iff.mp outcome
        have fails := failsAt_of_failsFirst second file
        exact Or.inr ⟨_, _, fails, failsAt_later on same stopped undefined fails⟩

end Settings

/-- The undefined label on the second line stops strict assembly there. Without strict labels, the
operand on the fourth line does, and so it does in both once the label is defined. -/
theorem strict_labels_only_reject_two_faults : ∃ lenient : Settings .standard,
    lenient.toOptions = { Settings.standard.toOptions with strictLabels := false } ∧
      (∃ f m g, FailsAt .standard "start:\nHOPP borte\nHOPP start\nNOPE r1".toList "<input>".toList 2 f ∧
        f.isUndefinedLabel = true ∧
        FailsAt lenient "start:\nHOPP borte\nHOPP start\nNOPE r1".toList "<input>".toList m g ∧ 2 < m) ∧
      ∃ n f, FailsAt .standard "borte:\nHOPP borte\nNOPE r1".toList "<input>".toList n f ∧
        FailsAt lenient "borte:\nHOPP borte\nNOPE r1".toList "<input>".toList n f := by
  let lenient : Settings .standard := .latin1 false false
  let f : Failure := .diagnostic ⟨.undefinedLabel "borte".toList [], none, some ⟨"<input>".toList, 2, 0⟩,
    some "HOPP borte".toList⟩
  let g (line : Int) : Failure := .diagnostic ⟨.wrongArity "NOPE".toList ["r1".toList] 0, none,
    some ⟨"<input>".toList, line, 0⟩, some "NOPE r1".toList⟩
  have same : lenient.toOptions = { Settings.standard.toOptions with strictLabels := false } := rfl
  have stops : (assemble .standard "start:\nHOPP borte\nHOPP start\nNOPE r1".toList "<input>".toList).outcome =
      .error f := by decide +kernel
  have later : (assemble lenient "start:\nHOPP borte\nHOPP start\nNOPE r1".toList "<input>".toList).outcome =
      .error (g 4) := by decide +kernel
  have both : (assemble .standard "borte:\nHOPP borte\nNOPE r1".toList "<input>".toList).outcome =
      .error (g 3) := by decide +kernel
  refine ⟨lenient, same, ?_, ?_⟩
  · obtain ⟨n, fails, -, passes⟩ := (strict_labels_only_reject rfl same _ _).2.2 f stops
    have place : (2 : Int) = n := congrArg Location.line (Option.some.inj fails.location_eq)
    obtain rfl : n = 2 := by omega
    rcases passes rfl with ⟨p, done⟩ | ⟨m, g, fails', after⟩
    · cases later.symm.trans done
    · exact ⟨f, m, g, fails, rfl, fails', after⟩
  · obtain ⟨n, fails, again, -⟩ := (strict_labels_only_reject rfl same _ _).2.2 (g 3) both
    exact ⟨n, g 3, fails, again rfl⟩

end Assembly

end SledeCode
