import SledeCode.Program
import SledeCode.Proofs.DataSizing
import SledeCode.Proofs.LayoutAddresses

namespace SledeCode

variable {codecs : Codecs}

namespace Emission

variable {s : Settings codecs} {labels : LabelTable}

/-- An operand of a data line that can be encoded gives as many bytes as were laid out for it. -/
theorem length_datum {arg : Text} {bytes : Bytes} (done : ((s.emission labels).datum arg).outcome = .ok bytes) :
    bytes.length = Layout.argSize s arg := by
  have faithful : ∀ codec, codecs.find s.encodingName = .ok codec → codec.IsFaithful := by
    intro codec found
    rw [← Except.ok.inj (s.found.symm.trans found)]
    exact s.lawful.faithful
  have size : Layout.argSizeIn codecs.find s.encodingName arg = .ok bytes.length :=
    argSizeIn_of_datumIn faithful done
  rw [Layout.argSizeIn_settings] at size
  exact (Except.ok.inj size).symm

theorem length_data {args : List Text} {bytes : Bytes}
    (done : ((s.emission labels).data args).outcome = .ok bytes) : bytes.length = Layout.dataSize s args := by
  induction args generalizing bytes with
  | nil =>
    rw [← Except.ok.inj done]
    rfl
  | cons arg rest ih =>
    obtain ⟨first, firstDone, later⟩ := Run.bind_eq_ok_iff.mp done
    obtain ⟨others, othersDone, same⟩ := Run.bind_eq_ok_iff.mp later
    rw [← Except.ok.inj same, List.length_append, length_datum firstDone, ih othersDone]
    simp [Layout.dataSize]

end Emission

namespace Assembly

theorem emitRecord_eq_ok_iff {e : Emission codecs} {file : Text} {r : Record} {bytes : Bytes} :
    (emitRecord e file r).outcome = .ok bytes ↔ (e.encode (Statement.read r.raw)).outcome = .ok bytes :=
  Run.mapFailure_eq_ok_iff

theorem emitRecords_cons_eq_ok_iff {e : Emission codecs} {file : Text} {offset : Nat} {r : Record}
    {rest : List Record} {pieces : List Piece} :
    (emitRecords e file offset (r :: rest)).outcome = .ok pieces ↔
      ∃ bytes others, (e.encode (Statement.read r.raw)).outcome = .ok bytes ∧
        (emitRecords e file (offset + bytes.length) rest).outcome = .ok others ∧
        pieces = ⟨r, bytes⟩ :: others := by
  rw [emitRecords, Run.bind_eq_ok_iff]
  refine exists_congr (fun bytes => ?_)
  rw [emitRecord_eq_ok_iff]
  dsimp only
  rw [Run.outcome_noted, Run.bind_eq_ok_iff]
  simp only [Run.outcome_pure, Except.ok.injEq, eq_comm (b := pieces), exists_and_left]

/-- Encoding records succeeds with exactly one piece for each record, each piece with the bytes
of its own statement. The offset only matters for the notes. -/
theorem emitRecords_eq_ok_iff {e : Emission codecs} {file : Text} {offset : Nat} {rs : List Record}
    {pieces : List Piece} :
    (emitRecords e file offset rs).outcome = .ok pieces ↔
      pieces.map Piece.record = rs ∧
        ∀ p ∈ pieces, (e.encode (Statement.read p.record.raw)).outcome = .ok p.bytes := by
  induction rs generalizing offset pieces with
  | nil =>
    simp only [emitRecords, Run.outcome_pure, Except.ok.injEq, List.map_eq_nil_iff]
    constructor
    · rintro rfl
      simp
    · rintro ⟨rfl, _⟩
      rfl
  | cons r rest ih =>
    rw [emitRecords_cons_eq_ok_iff]
    constructor
    · rintro ⟨bytes, others, first, later, rfl⟩
      obtain ⟨records, encoded⟩ := ih.mp later
      refine ⟨by rw [List.map_cons, records], ?_⟩
      rw [List.forall_mem_cons]
      exact ⟨first, encoded⟩
    · rintro ⟨records, encoded⟩
      obtain ⟨⟨_, bytes⟩, others, rfl, rfl, later⟩ := List.map_eq_cons_iff.mp records
      rw [List.forall_mem_cons] at encoded
      exact ⟨bytes, others, encoded.1, ih.mpr ⟨later, encoded.2⟩, rfl⟩

/-- A source assembles to a program exactly if every record of its layout can be encoded against
the labels of that layout, and then these bytes make up the program. -/
theorem assemble_eq_ok_iff {s : Settings codecs} {source file : Text} {p : Program} :
    (assemble s source file).outcome = .ok p ↔
      ∃ pieces : List Piece, pieces.map Piece.record = (Layout.ofSource s source).records ∧
        (∀ piece ∈ pieces, ((s.emission (Layout.ofSource s source).labels).encode
          (Statement.read piece.record.raw)).outcome = .ok piece.bytes) ∧
        p = programOf pieces (Layout.ofSource s source).labels := by
  constructor
  · intro done
    obtain ⟨layout, laidOut, rest⟩ := Run.bind_eq_ok_iff.mp done
    have same : Layout.ofSource s source = layout := Except.ok.inj laidOut
    subst same
    obtain ⟨pieces, emitted, rest⟩ := Run.bind_eq_ok_iff.mp rest
    obtain ⟨_, _, last⟩ := Run.bind_eq_ok_iff.mp rest
    obtain ⟨records, encoded⟩ := emitRecords_eq_ok_iff.mp emitted
    exact ⟨pieces, records, encoded, (Except.ok.inj last).symm⟩
  · rintro ⟨pieces, records, encoded, rfl⟩
    exact Run.bind_ok rfl (Run.bind_ok (emitRecords_eq_ok_iff.mpr ⟨records, encoded⟩) (Run.bind_ok rfl rfl))

theorem body_programOf (pieces : List Piece) (labels : LabelTable) :
    (programOf pieces labels).body = pieces.flatMap Piece.bytes := by
  rw [programOf, Program.body, Header.add, List.drop_left]

end Assembly

end SledeCode
