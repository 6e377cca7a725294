import SledeCode.Proofs.AssembledPieces
import SledeCode.Proofs.ListedCells

namespace SledeCode

variable {codecs : Codecs}

namespace LabelTable

/-- Each of the references, an address and a label for it, is right. -/
def Binds (t : LabelTable) (refs : List (Int × Text)) : Prop := ∀ r ∈ refs, t.find? r.2 = some r.1

theorem find?_of_forall {t : LabelTable} {name : Text} {address value : Int}
    (member : (name, value) ∈ t.bindings) (only : ∀ b ∈ t.bindings, b.1 = name → b.2 = address) :
    t.find? name = some address := by
  rw [find?]
  cases found : t.bindings.lookup name with
  | none => exact absurd (List.lookup_eq_none_iff.mp found _ member) (by simp)
  | some first =>
    obtain ⟨before, after, same, _⟩ := List.lookup_eq_some_iff.mp found
    exact congrArg some (only (name, first) (by rw [same]; simp) rfl)

end LabelTable

namespace Emission

theorem datum_byteOperand (e : Emission codecs) (b : UInt8) : (e.datum (Cell.byteOperand b)).outcome = .ok [b] := by
  have number : Operand.value? (Cell.byteOperand b) = .ok (some (b.toNat : Int)) := Operand.value?_hex 2 b.toNat
  have fits := b.toNat_lt
  refine Run.bind_ok (literal_eq_ok_iff.mpr number) ?_
  refine Run.bind_ok (a := ⟨b.toNat, by omega⟩) (inRange_eq_ok_iff.mpr rfl) ?_
  simp

theorem encode_dataStatement (e : Emission codecs) (bytes : Bytes) :
    (e.encode (Cell.dataStatement bytes)).outcome = .ok bytes := by
  have data : (e.data (bytes.map Cell.byteOperand)).outcome = .ok bytes := by
    induction bytes with
    | nil => rfl
    | cons b rest ih => exact Run.bind_ok (datum_byteOperand e b) (Run.bind_ok ih rfl)
  rw [encode, if_pos (show (Cell.dataStatement bytes).mnemonic = dataWord from rfl)]
  exact data

end Emission

namespace Disassembly

/-- The names that a listing has for an address. -/
def IsLabelOf (a : Nat) (name : Text) : Prop :=
  ∃ letter : Char, (letter = 'a' ∨ letter = 'm') ∧ name = letter :: Text.hexField 3 a

theorem IsLabelOf.isWord {a : Nat} {name : Text} (label : IsLabelOf a name) : Text.IsWord name := by
  obtain ⟨letter, rfl | rfl, rfl⟩ := label
  · exact Text.isWord_cons (by decide) (fun _ inside => Text.isWordChar_of_mem_hexField inside)
  · exact Text.isWord_cons (by decide) (fun _ inside => Text.isWordChar_of_mem_hexField inside)

theorem IsLabelOf.isLabelChar {a : Nat} {name : Text} (label : IsLabelOf a name) :
    ∀ c ∈ name, Line.isLabelChar c = true := by
  have digits : ∀ c ∈ Text.hexField 3 a, Line.isLabelChar c = true := by
    rw [Text.hexField_natCast]
    exact Text.forall_mem_zeroPad (by decide) 3 a
  obtain ⟨letter, rfl | rfl, rfl⟩ := label
  · exact List.forall_mem_cons.mpr ⟨by decide, digits⟩
  · exact List.forall_mem_cons.mpr ⟨by decide, digits⟩

theorem IsLabelOf.unique {a b : Nat} {name : Text} (first : IsLabelOf a name) (second : IsLabelOf b name) :
    a = b := by
  obtain ⟨_, _, rfl⟩ := first
  obtain ⟨_, _, same⟩ := second
  exact Text.hexField_inj.mp (List.cons.inj same).2

end Disassembly

namespace Layout

theorem advance_of_code {s : Settings codecs} {line : Text} {st : Statement} (isOn : st.IsOn line)
    (other : st.mnemonic ≠ dataWord) : advance s line = 2 := by
  rw [advance, isOn.kind, if_neg other]

/-- A data line whose operands give one byte each takes as many bytes in either way of sizing. -/
theorem advance_of_data {s : Settings codecs} {line : Text} {st : Statement} {bytes : Bytes} (isOn : st.IsOn line)
    (word : st.mnemonic = dataWord) (count : st.args.length = bytes.length)
    (encoded : ∀ e : Emission codecs, (e.encode st).outcome = .ok bytes) : advance s line = bytes.length := by
  have done := encoded (s.emission .empty)
  rw [Emission.encode, if_pos word] at done
  have size := Emission.length_data done
  simp only [advance, isOn.kind, if_pos word, isOn.read]
  split
  · exact count
  · exact size.symm

/-- A line that is printed for a label is read as that label. -/
theorem read_labelLine {name : Text} (word : Text.IsWord name) (chars : ∀ c ∈ name, Line.isLabelChar c = true) :
    Line.kind (Text.trim (Disassembly.labelLine name)) = .label ∧
      Line.labelName (Text.trim (Disassembly.labelLine name)) = name := by
  have trimmed : Text.trim (Disassembly.labelLine name) = Disassembly.labelLine name := by
    rw [Disassembly.labelLine, Text.trim_append word.nonempty word.trim_eq]
    exact Text.trimRight_append_cons (by decide) name []
  rw [trimmed]
  exact ⟨Line.kind_label word.nonempty chars, List.dropLast_concat⟩

theorem scan_label (s : Settings codecs) (n a : Nat) {name : Text} (word : Text.IsWord name)
    (chars : ∀ c ∈ name, Line.isLabelChar c = true) (rest : List Text) :
    recordsOf s n a (Disassembly.labelLine name :: rest) = recordsOf s (n + 1) a rest ∧
      bindingsOf s n a (Disassembly.labelLine name :: rest) = (name, (a : Int)) :: bindingsOf s (n + 1) a rest := by
  obtain ⟨kind, named⟩ := read_labelLine word chars
  obtain ⟨_, _, records, bindings⟩ := scan_cons_of_label kind s n a rest
  rw [named] at bindings
  exact ⟨records, bindings⟩

theorem scan_statement (s : Settings codecs) (n a : Nat) {line : Text} {st : Statement}
    (isOn : st.IsOn (Text.trim line)) (rest : List Text) :
    recordsOf s n a (line :: rest) =
        ⟨n, a, Text.trim line⟩ :: recordsOf s (n + 1) (a + advance s (Text.trim line)) rest ∧
      bindingsOf s n a (line :: rest) = bindingsOf s (n + 1) (a + advance s (Text.trim line)) rest := by
  have kind : (Line.kind (Text.trim line)).isRecord = true := by
    rw [isOn.kind]
    split <;> rfl
  obtain ⟨_, _, records, bindings⟩ := scan_cons_of_isRecord kind s n a rest
  exact ⟨records, bindings⟩

/-- Source lines from an address on, and the bytes that they give as long as the references are
bound: labels that tell the address they stand at, and statements that take as many bytes as they give. -/
inductive Lays (s : Settings codecs) (refs : List (Int × Text)) : Nat → List Text → Bytes → Prop
  | nil (a : Nat) : Lays s refs a [] []
  | blank {a : Nat} {rest : List Text} {bytes : Bytes} : Lays s refs a rest bytes → Lays s refs a ([] :: rest) bytes
  | label {a : Nat} {name : Text} {rest : List Text} {bytes : Bytes} :
      Disassembly.IsLabelOf a name → Lays s refs a rest bytes →
      Lays s refs a (Disassembly.labelLine name :: rest) bytes
  | statement {a : Nat} {line : Text} {st : Statement} {first others : Bytes} {rest : List Text} :
      '\n' ∉ line → st.IsOn (Text.trim line) → advance s (Text.trim line) = first.length →
      (∀ labels : LabelTable, labels.Binds refs → ((s.emission labels).encode st).outcome = .ok first) →
      Lays s refs (a + first.length) rest others → Lays s refs a (line :: rest) (first ++ others)

namespace Lays

variable {s : Settings codecs} {refs : List (Int × Text)} {a : Nat} {lines : List Text} {bytes : Bytes}

theorem newline_not_mem (lays : Lays s refs a lines bytes) : ∀ line ∈ lines, '\n' ∉ line := by
  induction lays with
  | nil => simp
  | blank _ ih => exact List.forall_mem_cons.mpr ⟨by simp, ih⟩
  | label named _ ih =>
    refine List.forall_mem_cons.mpr ⟨fun member => ?_, ih⟩
    rcases List.mem_append.mp member with inside | colon
    · exact named.isWord.not_mem (by decide) inside
    · simp at colon
  | statement inline _ _ _ _ ih => exact List.forall_mem_cons.mpr ⟨inline, ih⟩

/-- Every label tells in its name the address that it is bound to. -/
theorem isLabelOf_binding (lays : Lays s refs a lines bytes) (n : Nat) : ∀ b ∈ bindingsOf s n a lines,
    ∃ m : Nat, b.2 = m ∧ Disassembly.IsLabelOf m b.1 := by
  induction lays generalizing n with
  | nil => simp [bindingsOf, scan]
  | blank _ ih => exact ih (n + 1)
  | @label a _ rest _ named _ ih =>
    rw [(scan_label s n a named.isWord named.isLabelChar rest).2]
    exact List.forall_mem_cons.mpr ⟨⟨a, rfl, named⟩, ih (n + 1)⟩
  | @statement a line _ _ _ rest _ isOn advance _ _ ih =>
    rw [(scan_statement s n a isOn rest).2, advance]
    exact ih (n + 1)

/-- Against labels that bind the references, every record can be encoded. -/
theorem exists_pieces (lays : Lays s refs a lines bytes) {labels : LabelTable} (bound : labels.Binds refs)
    (n : Nat) : ∃ pieces : List Piece, pieces.map Piece.record = recordsOf s n a lines ∧
      (∀ piece ∈ pieces, ((s.emission labels).encode
        (Statement.read piece.record.raw)).outcome = .ok piece.bytes) ∧
      pieces.flatMap Piece.bytes = bytes := by
  induction lays generalizing n with
  | nil => exact ⟨[], rfl, by simp, rfl⟩
  | blank _ ih => exact ih (n + 1)
  | @label a _ rest _ named _ ih =>
    rw [(scan_label s n a named.isWord named.isLabelChar rest).1]
    exact ih (n + 1)
  | @statement a line st first others rest _ isOn advance encoded _ ih =>
    obtain ⟨pieces, records, each, flat⟩ := ih (n + 1)
    refine ⟨⟨⟨n, a, Text.trim line⟩, first⟩ :: pieces, ?_, ?_, ?_⟩
    · rw [(scan_statement s n a isOn rest).1, advance, List.map_cons, records]
    · refine List.forall_mem_cons.mpr ⟨?_, each⟩
      rw [isOn.read]
      exact encoded labels bound
    · rw [List.flatMap_cons, flat]

theorem labels {names : List Text} (named : ∀ name ∈ names, Disassembly.IsLabelOf a name)
    (lays : Lays s refs a lines bytes) :
    Lays s refs a (names.map Disassembly.labelLine ++ lines) bytes := by
  induction names with
  | nil => exact lays
  | cons name rest ih =>
    obtain ⟨first, later⟩ := List.forall_mem_cons.mp named
    exact .label first (ih later)

theorem data {line : Text} {st : Statement} {first : Bytes} (inline : '\n' ∉ line)
    (isOn : st.IsOn (Text.trim line)) (word : st.mnemonic = dataWord) (count : st.args.length = first.length)
    (encoded : ∀ e : Emission codecs, (e.encode st).outcome = .ok first)
    (later : Lays s refs (a + first.length) lines bytes) : Lays s refs a (line :: lines) (first ++ bytes) :=
  .statement inline isOn (advance_of_data isOn word count encoded) (fun _ _ => encoded _) later

end Lays

/-- A label line binds its name, whatever stands around it. -/
theorem exists_binding (s : Settings codecs) (n a : Nat) {name : Text} {lines : List Text} (word : Text.IsWord name)
    (chars : ∀ c ∈ name, Line.isLabelChar c = true) (member : Disassembly.labelLine name ∈ lines) :
    ∃ address, (name, address) ∈ bindingsOf s n a lines := by
  induction lines generalizing n a with
  | nil => simp at member
  | cons raw rest ih =>
    rcases List.mem_cons.mp member with rfl | later
    · rw [(scan_label s n a word chars rest).2]
      exact ⟨a, List.mem_cons_self⟩
    · obtain ⟨address, found⟩ := ih (n + 1) (a + advance s (Text.trim raw)) later
      refine ⟨address, ?_⟩
      rw [bindingsOf, scan, List.filterMap_append]
      exact List.mem_append_right _ found

end Layout

open Layout (Lays)

/-- A cell has a source line that gives its bytes, as long as its reference is among those bound. -/
theorem Cell.Lists.exists_source {c : Cell} {bytes : Bytes} (lists : c.Lists bytes) (s : Settings codecs)
    {starts : Int → Bool} {refs : List (Int × Text)}
    (collected : ∀ r, c.reference? = some r → starts r.1 = true → r ∈ refs) :
    ∃ line, c.sourceText (c.target?.any fun t => !starts t) = .ok line ∧
      ∀ {a : Nat} {rest : List Text} {others : Bytes}, Lays s refs (a + bytes.length) rest others →
        Lays s refs a (line :: rest) (bytes ++ others) := by
  cases lists with
  | instruction i code text target =>
    have listed := isListedAs_of_code code text target starts
    have other := i.mnemonic.name_ne_dataWord
    refine ⟨_, listed.source, fun later => ?_⟩
    refine .statement listed.inline listed.isOn (Layout.advance_of_code listed.isOn other)
      (fun labels bound => ?_) later
    refine (Emission.encode_eq_ok_iff other).mpr
      ⟨i.mnemonic, i, rfl, denotes_listedOperands (fun r refers start => ?_), rfl⟩
    have reference := reference?_of_text text target
    rw [refers, Option.map_some] at reference
    exact bound _ (collected _ reference start)
  | data _ remark code target inline text =>
    have listed := isListedAs_of_data code inline text starts
    refine ⟨_, listed.source, fun later => ?_⟩
    exact .data listed.inline listed.isOn rfl (List.length_map _) (fun e => e.encode_dataStatement bytes) later

namespace Disassembly

theorem isLabelOf_label (c : Cell) (a : Nat) : IsLabelOf a (c.label a) := by
  refine ⟨_, ?_, rfl⟩
  cases c.isCode <;> simp

theorem isLabelOf_targetLabel (op : AddressOp) (a : Address) : IsLabelOf a.val (Instruction.targetLabel op a) :=
  ⟨op.labelLetter, by cases op <;> decide, rfl⟩

/-- The names of a cell in a listing: its own label, then the other labels by which it is referred to. -/
def namesOf (refs : List (Int × Text)) (c : Cell) : List Text :=
  c.label c.address :: (labelsOf refs c.address).filter (· != c.label c.address)

theorem mem_labelsOf {refs : List (Int × Text)} {address : Int} {name : Text} :
    name ∈ labelsOf refs address ↔ (address, name) ∈ refs := by
  simp [labelsOf]

theorem mem_namesOf {refs : List (Int × Text)} {c : Cell} {name : Text} :
    name ∈ namesOf refs c ↔ name = c.label c.address ∨ (c.address, name) ∈ refs := by
  by_cases own : name = c.label c.address
  · simp [namesOf, own]
  · simp [namesOf, own, mem_labelsOf]

theorem cellLines_eq {starts : Int → Bool} {c : Cell} {line : Text}
    (source : c.sourceText (c.target?.any fun t => !starts t) = .ok line) (refs : List (Int × Text)) :
    cellLines starts refs c = .ok ((namesOf refs c).map labelLine ++ [line]) := by
  rw [cellLines, source]
  rfl

/-- All names of a cell are named for its address. -/
theorem isLabelOf_names {refs : List (Int × Text)} {c : Cell} {a : Nat} (placed : c.address = a)
    (named : ∀ r ∈ refs, ∃ m : Nat, r.1 = m ∧ IsLabelOf m r.2) : ∀ name ∈ namesOf refs c, IsLabelOf a name := by
  intro name member
  rcases mem_namesOf.mp member with rfl | listed
  · rw [placed]
    exact isLabelOf_label c a
  · obtain ⟨m, target, label⟩ := named _ listed
    have same : (m : Int) = a := target.symm.trans placed
    exact Int.ofNat.inj same ▸ label

/-- The lines of cells that follow each other give their bytes, and hold a line for every name of
the cells. -/
theorem linesOf_lays {a : Nat} {cs : List Cell} {bytes : Bytes} (row : Consecutive a cs bytes)
    (s : Settings codecs) {starts : Int → Bool} {refs : List (Int × Text)}
    (named : ∀ r ∈ refs, ∃ m : Nat, r.1 = m ∧ IsLabelOf m r.2)
    (collected : ∀ c ∈ cs, ∀ r, c.reference? = some r → starts r.1 = true → r ∈ refs) :
    ∃ lines, linesOf starts refs cs = .ok lines ∧ Lays s refs a lines bytes ∧
      ∀ c ∈ cs, ∀ name ∈ namesOf refs c, labelLine name ∈ lines := by
  induction row with
  | nil a => exact ⟨[], rfl, .nil a, by simp⟩
  | @cons a c first others rest placed lists _ ih =>
    rw [List.forall_mem_cons] at collected
    obtain ⟨lines, linesDone, lays, present⟩ := ih collected.2
    obtain ⟨line, source, extend⟩ := lists.exists_source s collected.1
    refine ⟨(namesOf refs c).map labelLine ++ [line] ++ lines, ?_, ?_, ?_⟩
    · rw [linesOf, cellLines_eq source, linesDone]
      rfl
    · rw [List.append_assoc]
      exact .labels (isLabelOf_names placed named) (extend lays)
    · refine List.forall_mem_cons.mpr ⟨fun name member => ?_, fun other listed name member =>
        List.mem_append_right _ (present other listed name member)⟩
      exact List.mem_append_left _ (List.mem_append_left _ (List.mem_map_of_mem member))

/-- Lines of one zero byte each, which bring what follows them to an address. -/
def padding (n : Nat) : Text := (List.replicate n ".DATA 0\n".toList).flatten

theorem lines_padding (n : Nat) (t : Text) :
    Text.lines (padding n ++ t) = List.replicate n ".DATA 0".toList ++ Text.lines t := by
  induction n with
  | zero => rfl
  | succ n ih =>
    have first : padding (n + 1) ++ t = ".DATA 0".toList ++ '\n' :: (padding n ++ t) := by
      rw [padding, List.replicate_succ, List.flatten_cons, List.append_assoc]
      rfl
    rw [first, Text.lines, List.splitOn_append_cons_self_of_not_mem (by decide), List.replicate_succ]
    exact congrArg (List.cons _) ih

theorem padding_lays {s : Settings codecs} {refs : List (Int × Text)} {a n : Nat} {lines : List Text} {bytes : Bytes}
    (lays : Lays s refs (a + n) lines bytes) :
    Lays s refs a (List.replicate n ".DATA 0".toList ++ lines) (List.replicate n 0 ++ bytes) := by
  induction n generalizing a with
  | zero => exact lays
  | succ n ih =>
    have later := ih (a := a + 1) (by rwa [Nat.add_assoc, Nat.add_comm 1 n])
    have isOn : Statement.IsOn ⟨dataWord, ["0".toList]⟩ (Text.trim ".DATA 0".toList) := ⟨by decide, by decide⟩
    have zero : Lays s refs a (".DATA 0".toList :: (List.replicate n ".DATA 0".toList ++ lines))
        ([0] ++ (List.replicate n 0 ++ bytes)) := .data (by decide) isOn rfl rfl (fun _ => rfl) later
    exact zero

/-- Labels that tell their addresses bind every reference that has its label line. -/
theorem binds_of_present {s : Settings codecs} {refs : List (Int × Text)} {a : Nat} {lines : List Text} {bytes : Bytes}
    (lays : Lays s refs a lines bytes) (n : Nat)
    (named : ∀ r ∈ refs, ∃ m : Nat, r.1 = m ∧ IsLabelOf m r.2)
    (present : ∀ r ∈ refs, labelLine r.2 ∈ lines) :
    LabelTable.Binds ⟨Layout.bindingsOf s n a lines⟩ refs := by
  intro r member
  obtain ⟨m, target, label⟩ := named r member
  obtain ⟨address, found⟩ := Layout.exists_binding s n a label.isWord label.isLabelChar (present r member)
  refine LabelTable.find?_of_forall found (fun b listed same => ?_)
  obtain ⟨k, bound, own⟩ := lays.isLabelOf_binding n b listed
  rw [same] at own
  rw [bound, target, own.unique label]

/-- The references among cells that go to one of these cells. -/
def innerReferences (cs : List Cell) : List (Int × Text) :=
  (cs.filterMap Cell.reference?).filter fun r => isStart cs r.1

theorem mem_innerReferences {cs : List Cell} {c : Cell} {r : Int × Text} (listed : c ∈ cs)
    (reference : c.reference? = some r) (start : isStart cs r.1 = true) : r ∈ innerReferences cs :=
  List.mem_filter.mpr ⟨List.mem_filterMap.mpr ⟨c, listed, reference⟩, start⟩

theorem isLabelOf_innerReferences {cs : List Cell} (lists : ∀ c ∈ cs, ∃ bytes, c.Lists bytes) :
    ∀ r ∈ innerReferences cs, ∃ m : Nat, r.1 = m ∧ IsLabelOf m r.2 := by
  intro r member
  obtain ⟨c, listed, reference⟩ := List.mem_filterMap.mp (List.mem_of_mem_filter member)
  obtain ⟨bytes, here⟩ := lists c listed
  rcases here.reference_cases with ⟨_, none⟩ | ⟨op, target, _, _, same⟩
  · rw [none] at reference
    cases reference
  · rw [← Option.some.inj (same.symm.trans reference)]
    exact ⟨target.val, rfl, isLabelOf_targetLabel op target⟩

/-- A reference that goes to one of the cells has its label among the names of that cell. -/
theorem exists_name {cs : List Cell} {r : Int × Text} (member : r ∈ innerReferences cs) :
    ∃ c ∈ cs, c.address = r.1 ∧ r.2 ∈ namesOf (innerReferences cs) c := by
  obtain ⟨c, listed, here⟩ := List.any_eq_true.mp (List.mem_filter.mp member).2
  have same := beq_iff_eq.mp here
  exact ⟨c, listed, same, mem_namesOf.mpr (Or.inr (same ▸ member))⟩

theorem sourceLines_lays {a : Nat} {cs : List Cell} {bytes : Bytes} (row : Consecutive a cs bytes)
    (s : Settings codecs) : ∃ refs lines, sourceLines cs = .ok lines ∧ Lays s refs a lines bytes ∧
      (∀ r ∈ refs, ∃ m : Nat, r.1 = m ∧ IsLabelOf m r.2) ∧
      ∀ r ∈ refs, labelLine r.2 ∈ lines := by
  have named := isLabelOf_innerReferences row.lists
  obtain ⟨lines, done, lays, present⟩ :=
    linesOf_lays row s named (fun c listed r reference start => mem_innerReferences listed reference start)
  refine ⟨innerReferences cs, lines, ?_, lays, named, fun r member => ?_⟩
  · rw [sourceLines, references_eq row.lists]
    exact done
  · obtain ⟨c, listed, _, label⟩ := exists_name member
    exact present c listed r.2 label

/-- Printing lines and splitting them again keeps them; no lines at all become one blank line. -/
theorem lines_unlines_lays {s : Settings codecs} {refs : List (Int × Text)} {a : Nat} {lines : List Text}
    {bytes : Bytes} (lays : Lays s refs a lines bytes) :
    Lays s refs a (Text.lines (Text.unlines lines)) bytes ∧ lines ⊆ Text.lines (Text.unlines lines) := by
  rw [Text.lines_unlines lays.newline_not_mem]
  split
  · rename_i empty
    subst empty
    exact ⟨.blank lays, List.nil_subset _⟩
  · exact ⟨lays, List.Subset.refl _⟩

/-- A listing brought to its address by lines of zero bytes assembles under any settings, to the
zero bytes and the listed bytes. -/
theorem assemble_listing (s : Settings codecs) (data : Bytes) (start : Nat) (limit : Option Nat) (file : Text) :
    ∃ text p, listing start (limit.map Int.ofNat) false data = .ok text ∧
      (Assembly.assemble s (padding start ++ text) file).outcome = .ok p ∧
      p.body = List.replicate start 0 ++ listedBytes limit data := by
  obtain ⟨refs, lines, done, lays, named, present⟩ := sourceLines_lays (cells_consecutive start limit data) s
  have listed : listing start (limit.map Int.ofNat) false data = .ok (Text.unlines lines) := by
    rw [listing, done]
    rfl
  obtain ⟨reread, kept⟩ := lines_unlines_lays lays
  have whole : Lays s refs 0 (Text.lines (padding start ++ Text.unlines lines))
      (List.replicate start 0 ++ listedBytes limit data) := by
    rw [lines_padding]
    exact padding_lays (by rwa [Nat.zero_add])
  have bound := binds_of_present whole 1 named (fun r member => by
    rw [lines_padding]
    exact List.mem_append_right _ (kept (present r member)))
  obtain ⟨pieces, records, encoded, flat⟩ := whole.exists_pieces bound 1
  refine ⟨Text.unlines lines, _, listed, Assembly.assemble_eq_ok_iff.mpr ⟨pieces, records, encoded, rfl⟩, ?_⟩
  rw [Assembly.body_programOf, flat]

end Disassembly

end SledeCode
