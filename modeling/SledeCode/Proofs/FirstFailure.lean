import SledeCode.Proofs.AssembledPieces
import SledeCode.Proofs.EmissionFailure
import SledeCode.Proofs.StepsInOrder

namespace SledeCode

variable {codecs : Codecs}

/-- A record holds its line of the source, trimmed, and the number of that line. -/
theorem Layout.line_of_record {s : Settings codecs} {source : Text} {r : Record}
    (member : r ∈ (ofSource s source).records) :
    1 ≤ r.line ∧ (Text.lines source)[r.line - 1]?.map Text.trim = some r.raw := by
  have listed : (r.raw, r.line) ∈ codeLines 1 (Text.lines source) := by
    rw [← recordsOf_lines s 1 0 (Text.lines source)]
    exact List.mem_map_of_mem member
  obtain ⟨⟨raw, number⟩, inLines, kept⟩ := List.mem_filterMap.mp listed
  obtain ⟨_, same⟩ := Option.ite_none_right_eq_some.mp kept
  obtain ⟨trimmed, rfl⟩ := Prod.mk.inj (Option.some.inj same)
  obtain ⟨positive, found⟩ := List.mk_mem_zipIdx_iff_le_and_getElem?_sub.mp inLines
  exact ⟨positive, by rw [found, Option.map_some, trimmed]⟩

namespace Assembly

/-- The bytes of a record, encoded against the labels of its whole source. A failure has no place yet. -/
def recordBytes (s : Settings codecs) (source : Text) (r : Record) : Except Failure Bytes :=
  ((s.emission (Layout.ofSource s source).labels).encode (Statement.read r.raw)).outcome

/-- Apart from the notes, encoding records is encoding each of them. -/
theorem outcome_emitRecords (e : Emission codecs) (file : Text) (offset : Nat) (rs : List Record) :
    (emitRecords e file offset rs).outcome.map (List.map Piece.bytes) =
      rs.mapM fun r => (emitRecord e file r).outcome := by
  induction rs generalizing offset with
  | nil => rfl
  | cons r rest ih =>
    rw [emitRecords, Run.outcome_bind]
    cases here : (emitRecord e file r).outcome with
    | error f =>
      rw [mapM_cons_of_error (fun r => (emitRecord e file r).outcome) here]
      rfl
    | ok bytes =>
      rw [mapM_cons_of_ok (fun r => (emitRecord e file r).outcome) here, ← ih (offset + bytes.length)]
      dsimp only [Except.bind]
      rw [Run.outcome_noted, Run.outcome_bind]
      cases (emitRecords e file (offset + bytes.length) rest).outcome <;> rfl

/-- The body of a program is made of the bytes of the records, and without them there is no program. -/
theorem outcome_assemble (s : Settings codecs) (source file : Text) :
    (assemble s source file).outcome.map Program.body =
      ((Layout.ofSource s source).records.mapM fun r =>
        (recordBytes s source r).mapError (Failure.locate ⟨file, r.line, 0⟩ r.raw)).map List.flatten := by
  show _ = (((Layout.ofSource s source).records.mapM fun r =>
    (emitRecord (s.emission (Layout.ofSource s source).labels) file r).outcome).map List.flatten)
  rw [← outcome_emitRecords _ _ 0, assemble, Run.outcome_bind]
  show ((emitRecords (s.emission (Layout.ofSource s source).labels) file 0
    (Layout.ofSource s source).records >>= _).outcome.map Program.body) = _
  rw [Run.outcome_bind]
  cases (emitRecords (s.emission (Layout.ofSource s source).labels) file 0
    (Layout.ofSource s source).records).outcome with
  | error f => rfl
  | ok pieces => exact congrArg Except.ok (body_programOf pieces _)

/-- Assembly fails with the failure of the first record that cannot be encoded, put in its place. -/
theorem assemble_eq_error_iff {s : Settings codecs} {source file : Text} {f : Failure} :
    (assemble s source file).outcome = .error f ↔
      ∃ k r g, FailsFirst (recordBytes s source) (Layout.ofSource s source).records k r g ∧
        f = g.locate ⟨file, r.line, 0⟩ r.raw := by
  rw [← map_eq_error_iff Program.body, outcome_assemble, map_eq_error_iff List.flatten, mapM_eq_error_iff]
  simp only [failsFirst_mapError_iff]

/-- A failing record fails for a cause, and the cause is kept when the failure is put in its
place; or it has a numeral with too many digits, which has no place. -/
theorem locate_cases {s : Settings codecs} {source : Text} {r : Record} {g : Failure}
    (failed : recordBytes s source r = .error g) (place : Location) :
    (∃ cause, g = .ofCause cause ∧
        g.locate place r.raw = .diagnostic ⟨cause, cause.hint, some place, some r.raw⟩) ∨
      ∃ operand ∈ (Statement.read r.raw).args, ∃ o, Operand.IsOverlong operand o ∧ g = .overlong o ∧
        g.locate place r.raw = g := by
  cases Emission.isFault_of_encode s.found s.lawful failed with
  | undefinedLabel similar => exact Or.inl ⟨_, rfl, rfl⟩
  | cause c => exact Or.inl ⟨c, rfl, rfl⟩
  | overlong member long => exact Or.inr ⟨_, member, _, long, rfl, rfl⟩

/-- Assembly fails exactly if some record of the source cannot be encoded. It then fails at the
first such record and for the cause for which that record cannot be encoded, and it names the file
and the line, which is the line of the source that the record was read from. Nothing else comes
out of it, unless a numeral on that line has more digits than are read. -/
theorem assemble_fails_at_first_malformed (s : Settings codecs) (source file : Text) :
    ((∃ f, (assemble s source file).outcome = .error f) ↔
      ∃ r ∈ (Layout.ofSource s source).records, ∃ g, recordBytes s source r = .error g) ∧
    ∀ f, (assemble s source file).outcome = .error f →
      ∃ k r g, FailsFirst (recordBytes s source) (Layout.ofSource s source).records k r g ∧
        1 ≤ r.line ∧ (Text.lines source)[r.line - 1]?.map Text.trim = some r.raw ∧
        ((∃ cause, g = .ofCause cause ∧
            f = .diagnostic ⟨cause, cause.hint, some ⟨file, r.line, 0⟩, some r.raw⟩) ∨
          ∃ operand ∈ (Statement.read r.raw).args, ∃ o, Operand.IsOverlong operand o ∧
            g = .overlong o ∧ f = .overlong o) := by
  constructor
  · rw [← exists_mapM_eq_error_iff]
    simp only [assemble_eq_error_iff, mapM_eq_error_iff]
    constructor
    · rintro ⟨_, k, r, g, first, _⟩
      exact ⟨g, k, r, first⟩
    · rintro ⟨g, k, r, first⟩
      exact ⟨_, k, r, g, first, rfl⟩
  · intro f failed
    obtain ⟨k, r, g, first, rfl⟩ := assemble_eq_error_iff.mp failed
    obtain ⟨positive, line⟩ := Layout.line_of_record (List.mem_of_getElem? first.found)
    refine ⟨k, r, g, first, positive, line, ?_⟩
    rcases locate_cases first.fails ⟨file, r.line, 0⟩ with diagnosed | ⟨operand, member, o, long, rfl, same⟩
    · exact Or.inl diagnosed
    · exact Or.inr ⟨operand, member, o, long, rfl, same⟩

/-- The first of two bad lines is reported with its own number, and the label that is offered
instead is one that is defined further down. -/
theorem assemble_fails_at_first_malformed_of_two :
    let source := "; start\n\n  HOPP slut  \nNOPE r1\nslutt:".toList
    ∃ f k r cause, (assemble .standard source "prog.slede".toList).outcome = .error f ∧
      f.message = "prog.slede:3: error: undefined label 'slut'\n    HOPP slut\nhint: did you mean 'slutt'?".toList ∧
      FailsFirst (recordBytes .standard source) (Layout.ofSource .standard source).records k r (.ofCause cause) ∧
      f = .diagnostic ⟨cause, cause.hint, some ⟨"prog.slede".toList, r.line, 0⟩, some r.raw⟩ ∧
      1 ≤ r.line ∧ (Text.lines source)[r.line - 1]?.map Text.trim = some r.raw := by
  intro source
  let f : Failure := .diagnostic ⟨.undefinedLabel "slut".toList ["slutt".toList],
    some "did you mean 'slutt'?".toList, some ⟨"prog.slede".toList, 3, 0⟩, some "HOPP slut".toList⟩
  have failed : (assemble .standard source "prog.slede".toList).outcome = .error f := by decide +kernel
  obtain ⟨k, r, g, first, positive, line, ⟨cause, rfl, placed⟩ | ⟨_, _, o, _, _, other⟩⟩ :=
    (assemble_fails_at_first_malformed .standard source "prog.slede".toList).2 f failed
  · exact ⟨f, k, r, cause, failed, by decide +kernel, first, placed, positive, line⟩
  · simp [f] at other

end Assembly

end SledeCode
