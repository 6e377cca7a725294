import SledeCode.Proofs.LineShape
import SledeCode.Proofs.StatementAgreement

namespace SledeCode

variable {codecs : Codecs}

namespace Line

/-- Whether a trimmed line says something: it is neither empty nor a comment. -/
def isSignificant (line : Text) : Bool := line ≠ [] && line.head? ≠ some commentMark

/-- What lines say, without the blanks around them, the empty lines and the comments. -/
def significant (lines : List Text) : List Text := (lines.map Text.trim).filter isSignificant

@[simp] theorem significant_nil : significant [] = [] := rfl

theorem significant_cons (raw : Text) (rest : List Text) :
    significant (raw :: rest) =
      if isSignificant (Text.trim raw) then Text.trim raw :: significant rest else significant rest := by
  rw [significant, List.map_cons, List.filter_cons]
  rfl

theorem significant_append (lines others : List Text) :
    significant (lines ++ others) = significant lines ++ significant others := by
  rw [significant, List.map_append, List.filter_append]
  rfl

end Line

/-- The lines of a source that say something. -/
def Text.significantLines (source : Text) : List Text := Line.significant (Text.lines source)

/-- Where a record lies and what it says, without the number of its line. -/
def Record.place (r : Record) : Nat × Text := (r.address, r.raw)

namespace Layout

/-- A line that says nothing adds nothing to the layout. -/
theorem items_of_not_significant {line : Text} (silent : Line.isSignificant line = false) (s : Settings codecs)
    (n a : Nat) : items line n a = [] ∧ advance s line = 0 := by
  by_cases empty : line = []
  · have kind : Line.kind line = .blank := if_pos empty
    simp only [items, advance, kind, and_self]
  · have comment : line.head? = some Line.commentMark := by
      simpa [Line.isSignificant, empty] using silent
    have kind : Line.kind line = .comment := by rw [Line.kind, if_neg empty, if_pos comment]
    simp only [items, advance, kind, and_self]

/-- What a line adds to the layout depends on its number only in the number that is noted down. -/
theorem items_renumbered (line : Text) (n m a : Nat) :
    ((items line n a).filterMap Item.record?).map Record.place =
        ((items line m a).filterMap Item.record?).map Record.place ∧
      (items line n a).filterMap Item.binding? = (items line m a).filterMap Item.binding? := by
  unfold items
  split <;> exact ⟨rfl, rfl⟩

theorem recordsOf_cons (s : Settings codecs) (n a : Nat) (raw : Text) (rest : List Text) :
    recordsOf s n a (raw :: rest) = (items (Text.trim raw) n a).filterMap Item.record? ++
      recordsOf s (n + 1) (a + advance s (Text.trim raw)) rest := by
  rw [recordsOf, scan, List.filterMap_append]
  rfl

theorem bindingsOf_cons (s : Settings codecs) (n a : Nat) (raw : Text) (rest : List Text) :
    bindingsOf s n a (raw :: rest) = (items (Text.trim raw) n a).filterMap Item.binding? ++
      bindingsOf s (n + 1) (a + advance s (Text.trim raw)) rest := by
  rw [bindingsOf, scan, List.filterMap_append]
  rfl

/-- Lines are laid out as the significant ones among them are: the same records at the same
addresses, and the same labels. -/
theorem scan_significant (s : Settings codecs) (n m a : Nat) (lines : List Text) :
    (recordsOf s n a lines).map Record.place = (recordsOf s m a (Line.significant lines)).map Record.place ∧
      bindingsOf s n a lines = bindingsOf s m a (Line.significant lines) := by
  induction lines generalizing n m a with
  | nil => exact ⟨rfl, rfl⟩
  | cons raw rest ih =>
    rw [Line.significant_cons]
    cases significant : Line.isSignificant (Text.trim raw) with
    | false =>
      obtain ⟨nothing, still⟩ := items_of_not_significant significant s n a
      rw [recordsOf_cons, bindingsOf_cons, nothing, still]
      exact ih (n + 1) m a
    | true =>
      obtain ⟨records, bindings⟩ := items_renumbered (Text.trim raw) n m a
      obtain ⟨laterRecords, laterBindings⟩ := ih (n + 1) (m + 1) (a + advance s (Text.trim raw))
      rw [if_pos rfl, recordsOf_cons, bindingsOf_cons, recordsOf_cons, bindingsOf_cons, Text.trim_trim]
      rw [List.map_append, List.map_append, records, laterRecords, bindings, laterBindings]
      exact ⟨rfl, rfl⟩

theorem ofSource_significant {a b : Text} (same : a.significantLines = b.significantLines) (s : Settings codecs) :
    (ofSource s a).records.map Record.place = (ofSource s b).records.map Record.place ∧
      (ofSource s a).labels = (ofSource s b).labels := by
  obtain ⟨recordsA, bindingsA⟩ := scan_significant s 1 1 0 (Text.lines a)
  obtain ⟨recordsB, bindingsB⟩ := scan_significant s 1 1 0 (Text.lines b)
  have lines : Line.significant (Text.lines a) = Line.significant (Text.lines b) := same
  rw [lines] at recordsA bindingsA
  exact ⟨recordsA.trans recordsB.symm, congrArg LabelTable.mk (bindingsA.trans bindingsB.symm)⟩

end Layout

/-- Two outcomes for sources in one file that agree: results that are the same in some sense, or one
failure at two lines of that file. -/
inductive SameUpToLine {α : Type} (file : Text) (same : α → α → Prop) :
    Except Failure α → Except Failure α → Prop
  | ok {a b : α} : same a b → SameUpToLine file same (.ok a) (.ok b)
  | error (f : Failure) (line : Int) : SameUpToLine file same (.error f) (.error (f.moveTo file line))

theorem SameUpToLine.bind {α β : Type} {file : Text} {same : α → α → Prop} {same' : β → β → Prop}
    {x y : Except Failure α} {next next' : α → Except Failure β} (first : SameUpToLine file same x y)
    (later : ∀ a b, same a b → SameUpToLine file same' (next a) (next' b)) :
    SameUpToLine file same' (x.bind next) (y.bind next') := by
  cases first with
  | ok agree => exact later _ _ agree
  | error f line => exact .error f line

/-- An entry without the number of its line: address, size and source. -/
def Entry.unnumbered (e : Entry) : Int × Int × Text := (e.address, e.size, e.raw)

/-- Two programs that differ in nothing but the line numbers of their entries. -/
structure Program.SameUpToLines (p q : Program) : Prop where
  image : p.image = q.image
  labels : p.labels = q.labels
  entries : p.entries.map Entry.unnumbered = q.entries.map Entry.unnumbered

/-- A piece without the number of its line. -/
def Piece.unnumbered (p : Piece) : (Nat × Text) × Bytes := (p.record.place, p.bytes)

namespace Assembly

theorem programOf_sameUpToLines {ps qs : List Piece} (same : ps.map Piece.unnumbered = qs.map Piece.unnumbered)
    (labels : LabelTable) : (programOf ps labels).SameUpToLines (programOf qs labels) where
  image := by
    have bytes := congrArg (List.map Prod.snd) same
    rw [List.map_map, List.map_map] at bytes
    exact congrArg (fun parts => Header.add parts.flatten) bytes
  labels := rfl
  entries := by
    have entries := congrArg
      (List.map fun u : (Nat × Text) × Bytes => ((u.1.1 : Int), (u.2.length : Int), u.1.2)) same
    rw [List.map_map, List.map_map] at entries
    simp only [programOf, List.map_map]
    exact entries

/-- One record, whatever the number of its line: the bytes or the failure are the same. -/
theorem emitRecord_sameUpToLine (e : Emission codecs) (file : Text) {r t : Record} (same : r.raw = t.raw) :
    SameUpToLine file Eq (emitRecord e file r).outcome (emitRecord e file t).outcome := by
  rw [emitRecord, emitRecord, same, Run.mapFailure, Run.mapFailure]
  cases (e.encode (Statement.read t.raw)).outcome with
  | ok bytes => exact .ok rfl
  | error f =>
    have moved := f.moveTo_locate file file t.raw t.line r.line 0
    show SameUpToLine file Eq (.error _) (.error _)
    rw [← moved]
    exact .error _ _

theorem outcome_emitRecords_cons (e : Emission codecs) (file : Text) (offset : Nat) (r : Record) (rest : List Record) :
    (emitRecords e file offset (r :: rest)).outcome =
      (emitRecord e file r).outcome.bind fun bytes =>
        (emitRecords e file (offset + bytes.length) rest).outcome.bind fun others =>
          .ok (⟨r, bytes⟩ :: others) := by
  rw [emitRecords, Run.outcome_bind]
  congr 1
  funext bytes
  dsimp only
  rw [Run.outcome_noted, Run.outcome_bind]
  rfl

/-- Records that lie at the same places and say the same give the same pieces, or the first of them
that fails does so in the same way. -/
theorem emitRecords_sameUpToLine (e : Emission codecs) (file : Text) (offset : Nat) {rs ts : List Record}
    (same : rs.map Record.place = ts.map Record.place) :
    SameUpToLine file (fun ps qs => ps.map Piece.unnumbered = qs.map Piece.unnumbered)
      (emitRecords e file offset rs).outcome (emitRecords e file offset ts).outcome := by
  induction rs generalizing offset ts with
  | nil =>
    rw [List.map_eq_nil_iff.mp same.symm]
    exact .ok rfl
  | cons r rest ih =>
    obtain ⟨t, others, rfl, place, later⟩ := List.map_eq_cons_iff.mp same.symm
    have raw : r.raw = t.raw := (congrArg Prod.snd place).symm
    rw [outcome_emitRecords_cons, outcome_emitRecords_cons]
    refine (emitRecord_sameUpToLine e file raw).bind ?_
    rintro bytes _ rfl
    refine (ih (offset + bytes.length) later.symm).bind (fun ps qs agree => .ok ?_)
    rw [List.map_cons, List.map_cons, agree, Piece.unnumbered, Piece.unnumbered, place]

theorem outcome_assemble_eq (s : Settings codecs) (source file : Text) :
    (assemble s source file).outcome =
      (emitRecords (s.emission (Layout.ofSource s source).labels) file 0
        (Layout.ofSource s source).records).outcome.bind fun pieces =>
          .ok (programOf pieces (Layout.ofSource s source).labels) := by
  rw [assemble, Run.outcome_bind]
  show (emitRecords _ file 0 _ >>= _).outcome = _
  rw [Run.outcome_bind]
  rfl

theorem assemble_sameUpToLine {a b : Text} (same : a.significantLines = b.significantLines) (s : Settings codecs)
    (file : Text) : SameUpToLine file Program.SameUpToLines (assemble s a file).outcome (assemble s b file).outcome := by
  obtain ⟨records, labels⟩ := Layout.ofSource_significant same s
  rw [outcome_assemble_eq, outcome_assemble_eq, labels]
  refine (emitRecords_sameUpToLine _ file 0 records).bind (fun ps qs agree => ?_)
  exact .ok (programOf_sameUpToLines agree _)

/-- Blanks around lines, empty lines and comments do not matter. Of two sources with the same
significant lines, either both assemble, to the same image and labels and to entries that differ only in
their line numbers; or both fail, and the two failures differ only in the line of their location. -/
theorem assemble_ignores_silent_lines {a b : Text} (same : a.significantLines = b.significantLines)
    (s : Settings codecs) (file : Text) :
    (∃ p q, (assemble s a file).outcome = .ok p ∧ (assemble s b file).outcome = .ok q ∧
        p.image = q.image ∧ p.labels = q.labels ∧
        p.entries.map Entry.unnumbered = q.entries.map Entry.unnumbered) ∨
      ∃ f line, (assemble s a file).outcome = .error f ∧
        (assemble s b file).outcome = .error (f.moveTo file line) := by
  have agree := assemble_sameUpToLine same s file
  generalize (assemble s a file).outcome = first, (assemble s b file).outcome = second at agree
  cases agree with
  | @ok p q programs => exact Or.inl ⟨p, q, rfl, rfl, programs.image, programs.labels, programs.entries⟩
  | error f line => exact Or.inr ⟨f, line, rfl, rfl⟩

/-- A label and a jump between comments and behind tabs, in a file with carriage returns; and a mistake
that stands on another line once the blank lines before it are gone. -/
theorem assemble_ignores_silent_lines_returns :
    let a : Text := "; hei\r\n\r\n\tstart: \r\n   HOPP start ; igjen\r\n;".toList
    let b : Text := "start:\nHOPP start ; igjen".toList
    let c : Text := "\r\n ; hei\n\n  NOPE r1\r".toList
    let d : Text := "NOPE r1".toList
    (a.significantLines = b.significantLines ∧
      ∃ p q, (assemble .standard a "<input>".toList).outcome = .ok p ∧
        (assemble .standard b "<input>".toList).outcome = .ok q ∧ p.image = q.image ∧ p.labels = q.labels ∧
        p.entries.map Entry.unnumbered = q.entries.map Entry.unnumbered ∧ p.body = [0x08, 0]) ∧
    c.significantLines = d.significantLines ∧
      ∃ f line, (assemble .standard c "<input>".toList).outcome = .error f ∧
        (assemble .standard d "<input>".toList).outcome = .error (f.moveTo "<input>".toList line) ∧
        f.message = "<input>:4: error: 'NOPE' expects no arguments, got r1\n    NOPE r1".toList := by
  intro a b c d
  have lines : a.significantLines = b.significantLines := by decide +kernel
  have lines' : c.significantLines = d.significantLines := by decide +kernel
  let p : Program := ⟨magic ++ [0x08, 0], [⟨0, 4, "HOPP start ; igjen".toList, 2⟩], ⟨[("start".toList, 0)]⟩⟩
  have done : (assemble .standard a "<input>".toList).outcome = .ok p := by decide +kernel
  let f : Failure := .diagnostic ⟨.wrongArity "NOPE".toList ["r1".toList] 0, none,
    some ⟨"<input>".toList, 4, 0⟩, some "NOPE r1".toList⟩
  have failed : (assemble .standard c "<input>".toList).outcome = .error f := by decide +kernel
  refine ⟨⟨lines, ?_⟩, lines', ?_⟩
  · rcases assemble_ignores_silent_lines lines .standard "<input>".toList with
      ⟨_, q, first, second, image, labels, entries⟩ | ⟨_, _, first, _⟩
    · cases done.symm.trans first
      exact ⟨p, q, done, second, image, labels, entries, rfl⟩
    · cases done.symm.trans first
  · rcases assemble_ignores_silent_lines lines' .standard "<input>".toList with
      ⟨_, _, first, _⟩ | ⟨_, line, first, second⟩
    · cases failed.symm.trans first
    · cases failed.symm.trans first
      exact ⟨f, line, failed, second, by decide +kernel⟩

end Assembly

end SledeCode
