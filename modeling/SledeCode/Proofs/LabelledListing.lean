import Mathlib.Data.List.Nodup
import SledeCode.Proofs.AssemblyNotes
import SledeCode.Proofs.BodyPartition
import SledeCode.Proofs.BoundLabels
import SledeCode.Proofs.FirstFailure
import SledeCode.Proofs.Reassembly

namespace SledeCode

variable {codecs : Codecs}

/-- The names that lines of source define, in order. -/
def Line.definedNames (lines : List Text) : List Text :=
  (lines.map Text.trim).filterMap fun line => if kind line = .label then some (labelName line) else none

theorem Line.definedNames_cons_of_label {raw : Text} (label : kind (Text.trim raw) = .label) (rest : List Text) :
    definedNames (raw :: rest) = labelName (Text.trim raw) :: definedNames rest := by
  simp [definedNames, label]

theorem Line.definedNames_cons_of_other {raw : Text} (other : kind (Text.trim raw) ≠ .label) (rest : List Text) :
    definedNames (raw :: rest) = definedNames rest := by
  simp [definedNames, other]

theorem Line.definedNames_flatMap {α : Type} (items : List α) (lines : α → List Text) :
    definedNames (items.flatMap lines) = items.flatMap fun item => definedNames (lines item) := by
  rw [definedNames, List.map_flatMap, List.filterMap_flatMap]
  rfl

/-- Printing lines and reading them again keeps the names that they define. -/
theorem Line.definedNames_unlines {ls : List Text} (inline : ∀ line ∈ ls, '\n' ∉ line) :
    definedNames (Text.lines (Text.unlines ls)) = definedNames ls := by
  rw [Text.lines_unlines inline]
  split
  · rename_i empty
    rw [empty]
    rfl
  · rfl

theorem Layout.map_fst_bindingsOf (s : Settings codecs) (n a : Nat) (lines : List Text) :
    (bindingsOf s n a lines).map Prod.fst = Line.definedNames lines := by
  induction lines generalizing n a with
  | nil => rfl
  | cons raw rest ih =>
    cases kind : Line.kind (Text.trim raw) with
    | label =>
      obtain ⟨_, _, _, bindings⟩ := scan_cons_of_label kind s n a rest
      rw [bindings, List.map_cons, ih, Line.definedNames_cons_of_label kind]
    | data | instruction =>
      obtain ⟨_, _, _, bindings⟩ := scan_cons_of_isRecord (by rw [kind]; rfl) s n a rest
      rw [bindings, ih, Line.definedNames_cons_of_other (by rw [kind]; decide)]
    | blank | comment =>
      obtain ⟨_, _, _, bindings⟩ := scan_cons_of_other (by rw [kind]; rfl) (by rw [kind]; decide) s n a rest
      rw [bindings, ih, Line.definedNames_cons_of_other (by rw [kind]; decide)]

/-- A label that is defined stands for the address that its digits tell. -/
theorem Layout.Lays.resolve_eq {s : Settings codecs} {refs : List (Int × Text)} {text : Text} {bytes : Bytes}
    (lays : Lays s refs 0 (Text.lines text) bytes) {name : Text} {a : Nat} (label : Disassembly.IsLabelOf a name)
    (isDefined : name ∈ Line.definedNames (Text.lines text)) :
    (ofSource s text).labels.resolve name = a := by
  rw [← map_fst_bindingsOf s 1 0] at isDefined
  obtain ⟨value, bound⟩ : ∃ value, (name, value) ∈ bindingsOf s 1 0 (Text.lines text) := by
    simpa using isDefined
  refine LabelTable.resolve_of_find? (LabelTable.find?_of_forall bound (fun b listed same => ?_))
  obtain ⟨m, address, tells⟩ := lays.isLabelOf_binding 1 b listed
  rw [same] at tells
  rw [address, tells.unique label]

/-- The source line of a cell holds one statement. It has an address operand exactly if the cell has a
target, and the target is written as a label exactly if a cell starts there. -/
theorem Cell.Lists.exists_statement {c : Cell} {bytes : Bytes} (lists : c.Lists bytes) (starts : Int → Bool) :
    ∃ line st, c.IsListedAs starts line st ∧ st.mnemonic = (if c.isCode then c.mnemonic else dataWord) ∧
      ((c.target? = none ∧ ∀ op : AddressOp, st.mnemonic ≠ op.name) ∨
        ∃ op a, c.target? = some (Fin.val a : Int) ∧
          c.reference? = some ((a.val : Int), Instruction.targetLabel op a) ∧
          st = ⟨op.name,
            [if starts a.val then Instruction.targetLabel op a else '0' :: 'x' :: Text.hexField 3 a.val]⟩) := by
  cases lists with
  | data _ remark data target inline text =>
    refine ⟨_, _, isListedAs_of_data data inline text starts, by rw [data]; rfl, Or.inl ⟨target, fun op => ?_⟩⟩
    exact (Mnemonic.address op).name_ne_dataWord.symm
  | instruction i code text target =>
    have valid : c.valid = true := ((Bool.and_eq_true _ _).mp code).1
    refine ⟨_, _, isListedAs_of_code code text target starts, by rw [code, mnemonic_of_text valid text]; rfl, ?_⟩
    have reference := reference?_of_text text target
    have other (different : ∀ op, i.mnemonic ≠ .address op) (op : AddressOp) : i.mnemonic.name ≠ op.name := by
      intro same
      have known : i.mnemonic = .address op := Mnemonic.name_inj same
      exact different op known
    cases i with
    | address op a => exact Or.inr ⟨op, a, target, reference, rfl⟩
    | _ => exact Or.inl ⟨target, other (fun op => by simp [Instruction.mnemonic])⟩

namespace Disassembly

/-- The lines of one cell in a listing: the names that are defined for it, and a line of source. -/
structure Block where
  names : List Text
  source : Text

namespace Block

def lines (b : Block) : List Text := b.names.map labelLine ++ [b.source]

def statement (b : Block) : Statement := Statement.read (Text.trim b.source)

end Block

/-- The two names that an address can have. -/
def labelsFor (address : Int) : List Text := ['a' :: Text.hexField 3 address, 'm' :: Text.hexField 3 address]

theorem mem_labelsFor {a : Nat} {name : Text} : name ∈ labelsFor a ↔ IsLabelOf a name := by
  simp [labelsFor, IsLabelOf]

/-- An operand for a target: one of the names that are defined if a cell starts there, and otherwise the
target as a number. -/
def WritesTarget (cs : List Cell) (defined : List Text) (target : Int) (operand : Text) : Prop :=
  ((∃ c ∈ cs, c.address = target) ∧ operand ∈ defined ∧ operand ∈ labelsFor target) ∨
    ((¬ ∃ c ∈ cs, c.address = target) ∧ operand = '0' :: 'x' :: Text.hexField 3 target ∧
      Operand.value? operand = .ok (some target))

/-- What a block tells of its cell, among the cells and the names of the whole listing. -/
structure Block.Shows (cs : List Cell) (defined : List Text) (c : Cell) (b : Block) : Prop where
  own : b.names.head? = some ((if c.isCode then 'a' else 'm') :: Text.hexField 3 c.address)
  named : ∀ name ∈ b.names, name ∈ labelsFor c.address
  source : ∃ literal, c.sourceText literal = .ok b.source
  isRecord : (Line.kind (Text.trim b.source)).isRecord = true
  mnemonic : b.statement.mnemonic = if c.isCode then c.mnemonic else dataWord
  addressed : ∀ target, c.target? = some target → ∃ (op : AddressOp) (operand : Text),
    b.statement = ⟨op.name, [operand]⟩ ∧ WritesTarget cs defined target operand
  unaddressed : c.target? = none → ∀ op : AddressOp, b.statement.mnemonic ≠ op.name

/-- The block that is printed for a cell. -/
def blockOf (starts : Int → Bool) (refs : List (Int × Text)) (c : Cell) : Block where
  names := namesOf refs c
  source := (c.sourceText (c.target?.any fun t => !starts t)).toOption.getD []

theorem source_blockOf {c : Cell} {starts : Int → Bool} {line : Text}
    (source : c.sourceText (c.target?.any fun t => !starts t) = .ok line) (refs : List (Int × Text)) :
    (blockOf starts refs c).source = line := by
  rw [blockOf, source]
  rfl

theorem linesOf_eq {cs : List Cell} (lists : ∀ c ∈ cs, ∃ bytes, c.Lists bytes) (starts : Int → Bool)
    (refs : List (Int × Text)) :
    linesOf starts refs cs = .ok (cs.flatMap fun c => (blockOf starts refs c).lines) := by
  induction cs with
  | nil => rfl
  | cons c rest ih =>
    obtain ⟨⟨bytes, first⟩, later⟩ := List.forall_mem_cons.mp lists
    obtain ⟨line, st, listed, _⟩ := first.exists_statement starts
    rw [linesOf, cellLines_eq listed.source, ih later, List.flatMap_cons, Block.lines, source_blockOf listed.source]
    rfl

-- By the number of names, since dropping repeats recurses on what a filter leaves.
theorem nodup_eraseDups {n : Nat} {names : List Text} (bound : names.length ≤ n) : names.eraseDups.Nodup := by
  induction n generalizing names with
  | zero =>
    rw [List.eq_nil_of_length_eq_zero (Nat.le_zero.mp bound)]
    exact List.nodup_nil
  | succ n ih =>
    cases names with
    | nil => exact List.nodup_nil
    | cons name rest =>
      have fewer := List.length_filter_le (fun t => !t == name) rest
      rw [List.length_cons] at bound
      rw [List.eraseDups_cons, List.nodup_cons]
      exact ⟨by simp, ih (by omega)⟩

theorem nodup_namesOf (refs : List (Int × Text)) (c : Cell) : (namesOf refs c).Nodup :=
  List.nodup_cons.mpr ⟨by simp, (nodup_eraseDups (Nat.le_refl _)).filter _⟩

/-- Cells at different addresses share no name. -/
theorem nodup_names {refs : List (Int × Text)} {cs : List Cell}
    (named : ∀ r ∈ refs, ∃ m : Nat, r.1 = m ∧ IsLabelOf m r.2) (placed : ∀ c ∈ cs, ∃ a : Nat, c.address = a)
    (sorted : cs.Pairwise fun c later => c.address < later.address) : (cs.flatMap (namesOf refs)).Nodup := by
  refine List.nodup_flatMap.mpr ⟨fun c _ => nodup_namesOf refs c, sorted.imp_of_mem ?_⟩
  intro c later first second before name here there
  obtain ⟨a, address⟩ := placed c first
  obtain ⟨b, address'⟩ := placed later second
  have same := (isLabelOf_names address named name here).unique (isLabelOf_names address' named name there)
  omega

/-- The printed block of a cell tells what it should. -/
theorem blockOf_shows {cs : List Cell} (lists : ∀ c ∈ cs, ∃ bytes, c.Lists bytes)
    (placed : ∀ c ∈ cs, ∃ a : Nat, c.address = a) {c : Cell} (listed : c ∈ cs) :
    (blockOf (isStart cs) (innerReferences cs) c).Shows cs (cs.flatMap (namesOf (innerReferences cs))) c := by
  obtain ⟨bytes, here⟩ := lists c listed
  obtain ⟨line, st, written, mnemonic, operand⟩ := here.exists_statement (isStart cs)
  have source := source_blockOf written.source (innerReferences cs)
  have read : (blockOf (isStart cs) (innerReferences cs) c).statement = st := by
    rw [Block.statement, source, written.isOn.read]
  refine ⟨rfl, fun name member => ?_, ⟨_, by rw [source, written.source]⟩, ?_, by rw [read, mnemonic], ?_, ?_⟩
  · obtain ⟨a, address⟩ := placed c listed
    rw [address, mem_labelsFor]
    exact isLabelOf_names address (isLabelOf_innerReferences lists) name member
  · rw [source, written.isOn.kind]
    split <;> rfl
  · intro target found
    rcases operand with ⟨none, _⟩ | ⟨op, a, target', reference, rfl⟩
    · rw [none] at found
      cases found
    · cases target'.symm.trans found
      refine ⟨op, _, read, ?_⟩
      split
      · rename_i start
        obtain ⟨other, member, address, name⟩ := exists_name (mem_innerReferences listed reference start)
        refine Or.inl ⟨⟨other, member, address⟩, List.mem_flatMap.mpr ⟨other, member, name⟩, ?_⟩
        exact mem_labelsFor.mpr (isLabelOf_targetLabel op a)
      · rename_i start
        refine Or.inr ⟨fun ⟨other, member, address⟩ => start ?_, rfl, ?_⟩
        · exact List.any_eq_true.mpr ⟨other, member, beq_iff_eq.mpr address⟩
        · rw [Text.hexField_natCast]
          exact Operand.value?_hex 3 a.val
  · intro none op
    rcases operand with ⟨_, other⟩ | ⟨_, a, target, _⟩
    · rw [read]
      exact other op
    · rw [none] at target
      cases target

/-- A text that lists cells block by block, each of the names in it defined once. -/
structure IsWellLabelled (cs : List Cell) (text : Text) (block : Cell → Block) : Prop where
  text_eq : text = Text.unlines (cs.flatMap fun c => (block c).lines)
  inline : ∀ line ∈ cs.flatMap fun c => (block c).lines, '\n' ∉ line
  defined : Line.definedNames (Text.lines text) = cs.flatMap fun c => (block c).names
  distinct : (Line.definedNames (Text.lines text)).Nodup
  shows : ∀ c ∈ cs, (block c).Shows cs (Line.definedNames (Text.lines text)) c

/-- The lines of a block define its names and no other. -/
theorem Block.Shows.definedNames_lines {cs : List Cell} {defined : List Text} {c : Cell} {b : Block}
    (shows : b.Shows cs defined c) {a : Nat} (placed : c.address = a) : Line.definedNames b.lines = b.names := by
  have named : ∀ name ∈ b.names, IsLabelOf a name := by
    intro name member
    rw [← mem_labelsFor, ← placed]
    exact shows.named name member
  have other : Line.kind (Text.trim b.source) ≠ .label := by
    intro label
    have isRecord := shows.isRecord
    rw [label] at isRecord
    cases isRecord
  rw [Block.lines]
  generalize b.names = names at named
  induction names with
  | nil => exact Line.definedNames_cons_of_other other []
  | cons name rest ih =>
    obtain ⟨first, later⟩ := List.forall_mem_cons.mp named
    obtain ⟨kind, read⟩ := Layout.read_labelLine first.isWord first.isLabelChar
    rw [List.map_cons, List.cons_append, Line.definedNames_cons_of_label kind, read, ih later]

theorem Consecutive.placed {a : Nat} {cs : List Cell} {bytes : Bytes} (row : Consecutive a cs bytes) :
    ∀ c ∈ cs, ∃ a : Nat, c.address = a := by
  induction row with
  | nil => simp
  | cons placed _ _ ih => exact List.forall_mem_cons.mpr ⟨⟨_, placed⟩, ih⟩

/-- The listing of cells that follow each other is well labelled. -/
theorem exists_isWellLabelled {a : Nat} {cs : List Cell} {bytes : Bytes} (row : Consecutive a cs bytes)
    (sorted : cs.Pairwise fun c later => c.address < later.address) : ∃ text block,
      (sourceLines cs).map Text.unlines = .ok text ∧ IsWellLabelled cs text block := by
  let block := blockOf (isStart cs) (innerReferences cs)
  have printed : sourceLines cs = .ok (cs.flatMap fun c => (block c).lines) := by
    rw [sourceLines, references_eq row.lists]
    exact linesOf_eq row.lists (isStart cs) (innerReferences cs)
  have shows : ∀ c ∈ cs, (block c).Shows cs (cs.flatMap fun c => (block c).names) c :=
    fun c listed => blockOf_shows row.lists row.placed listed
  have inline : ∀ line ∈ cs.flatMap fun c => (block c).lines, '\n' ∉ line := by
    obtain ⟨refs, lines, done, lays, _⟩ := sourceLines_lays row .standard
    rw [← Except.ok.inj (done.symm.trans printed)]
    exact lays.newline_not_mem
  have defined : Line.definedNames (Text.lines (Text.unlines (cs.flatMap fun c => (block c).lines))) =
      cs.flatMap fun c => (block c).names := by
    rw [Line.definedNames_unlines inline, Line.definedNames_flatMap]
    refine List.flatMap_congr (fun c listed => ?_)
    obtain ⟨a, placed⟩ := row.placed c listed
    exact (shows c listed).definedNames_lines placed
  refine ⟨_, block, by rw [printed]; rfl, rfl, inline, defined, ?_, ?_⟩
  · rw [defined]
    exact nodup_names (isLabelOf_innerReferences row.lists) row.placed sorted
  · rw [defined]
    exact shows

namespace IsWellLabelled

variable {cs : List Cell} {text : Text} {block : Cell → Block}

/-- What is recorded of a well-labelled text are the source lines of the cells. -/
theorem exists_source (labelled : IsWellLabelled cs text block) (placed : ∀ c ∈ cs, ∃ a : Nat, c.address = a)
    {s : Settings codecs} {r : Record} (member : r ∈ (Layout.ofSource s text).records) :
    ∃ c ∈ cs, r.raw = Text.trim (block c).source := by
  have isRecord := Layout.recordsOf_isRecord member
  obtain ⟨_, line⟩ := Layout.line_of_record member
  obtain ⟨raw, found, trimmed⟩ := Option.map_eq_some_iff.mp line
  rw [← trimmed] at isRecord ⊢
  have listed := List.mem_of_getElem? found
  rw [labelled.text_eq, Text.lines_unlines labelled.inline] at listed
  split at listed
  · rw [List.mem_singleton.mp listed] at isRecord
    exact absurd isRecord (by decide)
  · obtain ⟨c, here, within⟩ := List.mem_flatMap.mp listed
    rcases List.mem_append.mp within with label | source
    · obtain ⟨name, among, rfl⟩ := List.mem_map.mp label
      obtain ⟨a, address⟩ := placed c here
      have named := (labelled.shows c here).named name among
      rw [address, mem_labelsFor] at named
      rw [(Layout.read_labelLine named.isWord named.isLabelChar).1] at isRecord
      cases isRecord
    · exact ⟨c, here, by rw [List.mem_singleton.mp source]⟩

/-- A label that a well-labelled text refers to is defined in it, and named for an address. -/
theorem exists_address (labelled : IsWellLabelled cs text block) (lists : ∀ c ∈ cs, ∃ bytes, c.Lists bytes)
    (placed : ∀ c ∈ cs, ∃ a : Nat, c.address = a) {s : Settings codecs} {r : Record}
    (member : r ∈ (Layout.ofSource s text).records) {name : Text} (refers : (Statement.read r.raw).RefersTo name) :
    ∃ a : Address, IsLabelOf a.val name ∧ name ∈ Line.definedNames (Text.lines text) := by
  obtain ⟨c, here, raw⟩ := labelled.exists_source placed member
  obtain ⟨bytes, own⟩ := lists c here
  obtain ⟨op, read, symbolic⟩ := refers
  have shows := labelled.shows c here
  rw [raw] at read
  rcases own.reference_cases with ⟨none, _⟩ | ⟨_, a, target, _⟩
  · exact absurd (congrArg Statement.mnemonic read) (shows.unaddressed none op)
  · obtain ⟨op', operand, read', writes⟩ := shows.addressed a.val target
    obtain ⟨_, same⟩ := Statement.mk.inj (read.symm.trans read')
    obtain ⟨rfl, _⟩ := List.cons.inj same
    rcases writes with ⟨_, isDefined, label⟩ | ⟨_, _, value⟩
    · exact ⟨a, mem_labelsFor.mp label, isDefined⟩
    · rw [symbolic] at value
      cases value

theorem severity_ne_warning (labelled : IsWellLabelled cs text block) (lists : ∀ c ∈ cs, ∃ bytes, c.Lists bytes)
    (placed : ∀ c ∈ cs, ∃ a : Nat, c.address = a) {s : Settings codecs} {refs : List (Int × Text)} {bytes : Bytes}
    (lays : Layout.Lays s refs 0 (Text.lines text) bytes) (file : Text) :
    ∀ n ∈ (Assembly.assemble s text file).notes, n.severity ≠ .warning := by
  have distinct : ((Layout.bindingsOf s 1 0 (Text.lines text)).map Prod.fst).Nodup := by
    rw [Layout.map_fst_bindingsOf]
    exact labelled.distinct
  have quiet := Assembly.assemble_notesOnly_debug distinct (fun r member name refers => by
    obtain ⟨a, label, isDefined⟩ := labelled.exists_address lists placed member refers
    have small := a.isLt
    rw [lays.resolve_eq label isDefined, LabelTable.undefined]
    omega) file
  intro n taken warning
  exact absurd (warning.symm.trans (quiet n taken)) (by decide)

end IsWellLabelled

/-- A limit below zero lists nothing, as a limit of zero. -/
theorem cells_limit_toNat (start : Int) (limit : Option Int) (data : Bytes) :
    cells start ((limit.map Int.toNat).map Int.ofNat) data = cells start limit data := by
  cases limit with
  | none => rfl
  | some limit =>
    have count : (Int.ofNat limit.toNat).toNat = limit.toNat := Int.toNat_natCast _
    rw [Option.map_some, Option.map_some, cells_limited, cells_limited, count]

/-- The listing of any body is well labelled: every cell is listed as a block of lines, its own label
first and all labels of the block named for its address, no label is defined twice, and an address operand
is a defined label if a cell is listed at the target and a number otherwise. So a listing from address
zero assembles without a warning. -/
theorem listing_is_well_labelled (data : Bytes) (start : Nat) (limit : Option Int) :
    ∃ text block, listing start limit false data = .ok text ∧
      IsWellLabelled (cells start limit data) text block ∧
      (start = 0 → ∀ (s : Settings codecs) (file : Text), (∃ p, (Assembly.assemble s text file).outcome = .ok p) ∧
        ∀ n ∈ (Assembly.assemble s text file).notes, n.severity ≠ .warning) := by
  have row := cells_consecutive start (limit.map Int.toNat) data
  rw [cells_limit_toNat] at row
  obtain ⟨text, block, printed, labelled⟩ := exists_isWellLabelled row (cells_sorted start limit data)
  refine ⟨text, block, printed, labelled, ?_⟩
  rintro rfl s file
  obtain ⟨refs, lines, done, lays, named, present⟩ := sourceLines_lays row s
  have same : Text.unlines lines = text := by
    rw [done] at printed
    exact Except.ok.inj printed
  obtain ⟨reread, kept⟩ := lines_unlines_lays lays
  rw [same] at reread kept
  constructor
  · have bound := binds_of_present reread 1 named (fun r member => kept (present r member))
    obtain ⟨pieces, records, encoded, _⟩ := reread.exists_pieces bound 1
    exact ⟨_, Assembly.assemble_eq_ok_iff.mpr ⟨pieces, records, encoded, rfl⟩⟩
  · exact labelled.severity_ne_warning row.lists row.placed reread file

-- A byte of data that is the target of a jump has a label of each kind.
example : listing 0 none false [0x48, 0, 0x88, 1, 0xFF] = .ok
    "a000:\nHOPP a004\na002:\nHOPP 0x018\nm004:\na004:\n.DATA 0xFF ; incomplete word".toList := by
  decide +kernel

end Disassembly

end SledeCode
