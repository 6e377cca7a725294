import SledeCode.Proofs.FirstFailure

namespace SledeCode

variable {codecs : Codecs}

/-- The same failure with another file and another line in its location. -/
def Failure.moveTo (file : Text) (line : Int) : Failure → Failure
  | .diagnostic d =>
    .diagnostic { d with location := d.location.map fun l => { l with file := file, line := line } }
  | other => other

theorem Failure.moveTo_locate (f : Failure) (file other raw : Text) (line number column : Int) :
    (f.locate ⟨other, number, column⟩ raw).moveTo file line = f.locate ⟨file, line, column⟩ raw := by
  cases f <;> rfl

/-- What fails first on a part of each element fails first on the list of these parts. -/
theorem FailsFirst.of_map {α β δ : Type} (step : α → Except Failure β) (part : δ → α) {ys : List δ} {k : Nat}
    {y : δ} {f : Failure} (first : FailsFirst (fun y => step (part y)) ys k y f) :
    FailsFirst step (ys.map part) k (part y) f where
  found := by rw [List.getElem?_map, first.found, Option.map_some]
  fails := first.fails
  earlier := by
    rw [← List.map_take, List.forall_mem_map]
    exact first.earlier

theorem Layout.labels_of_labelFree {source : Text}
    (labelFree : ∀ raw ∈ Text.lines source, Line.kind (Text.trim raw) ≠ .label) (s : Settings codecs) :
    (ofSource s source).labels = .empty := by
  have none : labelLines 1 (Text.lines source) = [] := by
    rw [labelLines, List.filterMap_eq_nil_iff]
    rintro ⟨raw, number⟩ inLines
    exact if_neg (labelFree raw (List.fst_mem_of_mem_zipIdx inLines))
  have bindings := bindingsOf_eq s 1 0 (Text.lines source)
  rw [none, List.map_nil] at bindings
  exact congrArg LabelTable.mk bindings

namespace Assembly

theorem statement_of_isRecord {raw : Text} (kind : (Line.kind (Text.trim raw)).isRecord = true) (s : Settings codecs) :
    statement s raw = emitRecord (s.emission .empty) "<statement>".toList ⟨1, 0, Text.trim raw⟩ := by
  cases same : Line.kind (Text.trim raw) with
  | blank | comment | label => simp [same, LineKind.isRecord] at kind
  | data | instruction => simp only [statement, same]

theorem statement_of_other {raw : Text} (kind : (Line.kind (Text.trim raw)).isRecord = false) (s : Settings codecs) :
    statement s raw = pure [] := by
  cases same : Line.kind (Text.trim raw) with
  | data | instruction => simp [same, LineKind.isRecord] at kind
  | blank | comment | label => simp only [statement, same]

/-- A line as a statement of its own, with a failure moved to the place of the line. -/
def placedStatement (s : Settings codecs) (file : Text) (line : Text × Nat) : Except Failure Bytes :=
  (statement s line.1).outcome.mapError (Failure.moveTo file line.2)

theorem placedStatement_of_isRecord {raw : Text} (kind : (Line.kind (Text.trim raw)).isRecord = true)
    (s : Settings codecs) (file : Text) (n a : Nat) :
    placedStatement s file (raw, n) =
      (emitRecord (s.emission .empty) file ⟨n, a, Text.trim raw⟩).outcome := by
  rw [placedStatement, statement_of_isRecord kind, emitRecord, emitRecord, Run.mapFailure, Run.mapFailure]
  cases ((s.emission .empty).encode (Statement.read (Text.trim raw))).outcome with
  | ok bytes => rfl
  | error f => exact congrArg Except.error (f.moveTo_locate file _ _ n 1 0)

theorem placedStatement_of_other {raw : Text} (kind : (Line.kind (Text.trim raw)).isRecord = false)
    (s : Settings codecs) (file : Text) (n : Nat) : placedStatement s file (raw, n) = .ok [] := by
  rw [placedStatement, statement_of_other kind, Run.outcome_pure]
  rfl

theorem flatten_cons (bytes : Bytes) (x : Except Failure (List Bytes)) :
    (x.map (bytes :: ·)).map List.flatten = (x.map List.flatten).map (bytes ++ ·) := by
  cases x <;> rfl

/-- Without labels, the bytes of the records are those of the lines as statements of their own. -/
theorem mapM_recordsOf (s : Settings codecs) (file : Text) (n a : Nat) {lines : List Text}
    (labelFree : ∀ raw ∈ lines, Line.kind (Text.trim raw) ≠ .label) :
    ((Layout.recordsOf s n a lines).mapM fun r => (emitRecord (s.emission .empty) file r).outcome).map
        List.flatten =
      ((lines.zipIdx n).mapM (placedStatement s file)).map List.flatten := by
  induction lines generalizing n a with
  | nil => rfl
  | cons raw rest ih =>
    obtain ⟨here, later⟩ := List.forall_mem_cons.mp labelFree
    rw [List.zipIdx_cons]
    cases kind : (Line.kind (Text.trim raw)).isRecord with
    | true =>
      obtain ⟨_, _, records, _⟩ := Layout.scan_cons_of_isRecord kind s n a rest
      have same := placedStatement_of_isRecord kind s file n a
      rw [records]
      cases done : (emitRecord (s.emission .empty) file ⟨n, a, Text.trim raw⟩).outcome with
      | error f =>
        rw [mapM_cons_of_error _ (same.trans done),
          mapM_cons_of_error (fun r => (emitRecord (s.emission .empty) file r).outcome) done]
      | ok bytes =>
        rw [mapM_cons_of_ok _ (same.trans done),
          mapM_cons_of_ok (fun r => (emitRecord (s.emission .empty) file r).outcome) done,
          flatten_cons, flatten_cons, ih _ _ later]
    | false =>
      obtain ⟨_, _, records, _⟩ := Layout.scan_cons_of_other kind here s n a rest
      rw [records, mapM_cons_of_ok _ (placedStatement_of_other kind s file n), flatten_cons, ih _ _ later]
      cases (rest.zipIdx (n + 1)).mapM (placedStatement s file) <;> rfl

theorem outcome_assemble_of_labelFree {source : Text}
    (labelFree : ∀ raw ∈ Text.lines source, Line.kind (Text.trim raw) ≠ .label) (s : Settings codecs) (file : Text) :
    (assemble s source file).outcome.map Program.body =
      (((Text.lines source).zipIdx 1).mapM (placedStatement s file)).map List.flatten := by
  rw [outcome_assemble, ← mapM_recordsOf s file 1 0 labelFree]
  simp only [recordBytes, Layout.labels_of_labelFree labelFree s]
  rfl

/-- Without labels, a source is assembled as its lines are one by one. It succeeds with the bytes of
the lines put together; it fails exactly if one of the lines fails, and with what the first of
these fails with, where only the file and the line of the location are its own. -/
theorem assemble_agrees_with_statements {source : Text}
    (labelFree : ∀ raw ∈ Text.lines source, Line.kind (Text.trim raw) ≠ .label) (s : Settings codecs) (file : Text) :
    (∀ p, (assemble s source file).outcome = .ok p → ∃ parts : List Bytes,
      List.Forall₂ (fun raw bytes => (statement s raw).outcome = .ok bytes) (Text.lines source) parts ∧
        p.body = parts.flatten) ∧
    ((∃ f, (assemble s source file).outcome = .error f) ↔
      ∃ raw ∈ Text.lines source, ∃ g, (statement s raw).outcome = .error g) ∧
    ∀ f, (assemble s source file).outcome = .error f →
      ∃ k raw g, FailsFirst (fun raw => (statement s raw).outcome) (Text.lines source) k raw g ∧
        f = g.moveTo file (k + 1) := by
  have agree := outcome_assemble_of_labelFree labelFree s file
  have lines : ((Text.lines source).zipIdx 1).map Prod.fst = Text.lines source := List.zipIdx_map_fst _ _
  have fails (f : Failure) : (assemble s source file).outcome = .error f ↔
      ((Text.lines source).zipIdx 1).mapM (placedStatement s file) = .error f := by
    rw [← map_eq_error_iff Program.body, agree, map_eq_error_iff]
  refine ⟨?_, ?_, ?_⟩
  · intro p done
    cases all : ((Text.lines source).zipIdx 1).mapM (placedStatement s file) with
    | error f =>
      rw [done, all] at agree
      cases agree
    | ok parts =>
      rw [done, all] at agree
      refine ⟨parts, ?_, Except.ok.inj agree⟩
      rw [← lines, List.forall₂_map_left_iff]
      exact (mapM_eq_ok_iff.mp all).imp (fun line bytes placed => mapError_eq_ok_iff.mp placed)
  · simp only [fails]
    rw [exists_mapM_eq_error_iff]
    constructor
    · rintro ⟨line, member, f, placed⟩
      obtain ⟨g, failed, _⟩ := mapError_eq_error_iff.mp placed
      exact ⟨line.1, List.fst_mem_of_mem_zipIdx member, g, failed⟩
    · rintro ⟨raw, member, g, failed⟩
      rw [← lines] at member
      obtain ⟨line, listed, rfl⟩ := List.mem_map.mp member
      exact ⟨line, listed, _, mapError_eq_error_iff.mpr ⟨g, failed, rfl⟩⟩
  · intro f failed
    obtain ⟨k, line, first⟩ := mapM_eq_error_iff.mp ((fails f).mp failed)
    obtain ⟨g, unplaced, rfl⟩ := failsFirst_mapError_iff.mp first
    have found := unplaced.found
    rw [List.getElem?_zipIdx] at found
    obtain ⟨raw, _, rfl⟩ := Option.map_eq_some_iff.mp found
    have whole := unplaced.of_map (fun raw => (statement s raw).outcome) Prod.fst
    rw [lines] at whole
    have number : ((1 + k : Nat) : Int) = k + 1 := by omega
    exact ⟨k, raw, g, whole, congrArg (fun n => g.moveTo file n) number⟩

/-- With lenient labels, an undefined label is no reason to stop, neither in a program nor alone; the
register that does not exist is one in both. -/
theorem assemble_agrees_with_statements_lenient : ∃ s : Settings .standard, s.strictLabels = false ∧
    let source := "; hei\nHOPP borte\n.DATA 'ab', 7\n  PLUSS r0, r16\nNOPE r1".toList
    ∃ f k raw g, (assemble s source "prog.slede".toList).outcome = .error f ∧
      f.message = "prog.slede:4: error: invalid register 'r16'\n    PLUSS r0, r16\nhint: registers are r0 to r15".toList ∧
      FailsFirst (fun raw => (statement s raw).outcome) (Text.lines source) k raw g ∧
      f = g.moveTo "prog.slede".toList (k + 1) := by
  let s : Settings .standard := .latin1 false true
  refine ⟨s, rfl, ?_⟩
  intro source
  let f : Failure := .diagnostic ⟨.badRegister "r16".toList, some "registers are r0 to r15".toList,
    some ⟨"prog.slede".toList, 4, 0⟩, some "PLUSS r0, r16".toList⟩
  have failed : (assemble s source "prog.slede".toList).outcome = .error f := by decide +kernel
  have labelFree : ∀ raw ∈ Text.lines source, Line.kind (Text.trim raw) ≠ .label := by decide +kernel
  obtain ⟨_, _, first⟩ := assemble_agrees_with_statements labelFree s "prog.slede".toList
  obtain ⟨k, raw, g, fails, same⟩ := first f failed
  exact ⟨f, k, raw, g, failed, by decide +kernel, fails, same⟩

end Assembly

end SledeCode
