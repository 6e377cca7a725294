import Mathlib.Algebra.BigOperators.Group.List.Basic
import Mathlib.Algebra.Ring.Int.Defs
import Mathlib.Data.List.Forall2
import SledeCode.Proofs.AssembledPieces

namespace SledeCode

variable {codecs : Codecs}

namespace Entry

/-- A line that is laid out as an instruction and read as data. The two differ on a first word
that is `.DATA` only once the blanks other than spaces around it are gone. -/
def IsMisread (e : Entry) : Prop :=
  Line.kind e.raw = .instruction ∧ (Statement.read e.raw).mnemonic = dataWord

instance (e : Entry) : Decidable e.IsMisread := inferInstanceAs (Decidable (_ ∧ _))

/-- By how much the address moves on further over the line than the line gives bytes. -/
def drift (s : Settings codecs) (e : Entry) : Int :=
  if e.IsMisread then 2 - e.size
  else if Line.kind e.raw = .data ∧ s.legacySizing = true then (Statement.read e.raw).args.length - e.size
  else 0

end Entry

/-- The sum of a quantity over the entries on the lines before a line. -/
def Program.totalBefore (p : Program) (quantity : Entry → Int) (line : Nat) : Int :=
  ((p.entries.filter fun e => e.line < (line : Int)).map quantity).sum

/-- Whether something that has an address, a line of code or data or a label, comes after a line. -/
def Layout.IsFollowed (source : Text) (line : Int) : Prop :=
  ∃ later ∈ codeLines 1 (Text.lines source) ++ labelLines 1 (Text.lines source), line < later.2

instance (source : Text) (line : Int) : Decidable (Layout.IsFollowed source line) :=
  inferInstanceAs (Decidable (∃ later ∈ _, _))

theorem Line.mnemonic_of_data {raw : Text} (data : Line.kind raw = .data) :
    (Statement.read raw).mnemonic = dataWord := by
  unfold Line.kind at data
  split at data <;> try cases data
  split at data <;> try cases data
  split at data <;> try cases data
  split at data <;> try cases data
  rename_i first
  rw [Statement.read, first]
  rfl

theorem Entry.drift_of_exact {s : Settings codecs} (exact : s.legacySizing = false) (e : Entry) :
    e.drift s = if e.IsMisread then 2 - e.size else 0 := by
  simp [drift, exact]

/-- The two passes over one line: its advance is the number of its bytes and its drift. -/
theorem Piece.advance_eq {s : Settings codecs} {labels : LabelTable} {p : Piece}
    (kept : (Line.kind p.record.raw).isRecord = true)
    (encoded : ((s.emission labels).encode (Statement.read p.record.raw)).outcome = .ok p.bytes) :
    (Layout.advance s p.record.raw : Int) = p.entry.size + p.entry.drift s := by
  cases kind : Line.kind p.record.raw with
  | blank | comment | label => simp [kind, LineKind.isRecord] at kept
  | instruction =>
    simp only [Layout.advance, kind, Entry.drift, Entry.IsMisread, Piece.entry]
    by_cases other : (Statement.read p.record.raw).mnemonic = dataWord
    · simp only [other, and_self, if_true]
      omega
    · obtain ⟨_, i, _, _, same⟩ := (Emission.encode_eq_ok_iff other).mp encoded
      simp [other, same, Instruction.bytes, Word.bytes]
  | data =>
    simp only [Layout.advance, kind, Entry.drift, Entry.IsMisread, Piece.entry]
    rw [Emission.encode, if_pos (Line.mnemonic_of_data kind)] at encoded
    cases legacy : s.legacySizing with
    | true =>
      simp only [reduceCtorEq, false_and, if_false, and_self, if_true]
      omega
    | false => simp [Emission.length_data encoded]

namespace Assembly

/-- What a successful assembly is made of: pieces whose records are those of the layout, each
with a drift that accounts for its advance. -/
structure IsBuiltFrom (s : Settings codecs) (source : Text) (p : Program) (pieces : List Piece) : Prop where
  records : pieces.map Piece.record = Layout.recordsOf s 1 0 (Text.lines source)
  program : p = programOf pieces ⟨Layout.bindingsOf s 1 0 (Text.lines source)⟩
  encoded : ∀ piece ∈ pieces,
    ((s.emission p.labels).encode (Statement.read piece.record.raw)).outcome = .ok piece.bytes
  advance : ∀ piece ∈ pieces,
    (Layout.advance s piece.record.raw : Int) = piece.entry.size + piece.entry.drift s

theorem exists_isBuiltFrom {s : Settings codecs} {source file : Text} {p : Program}
    (done : (assemble s source file).outcome = .ok p) : ∃ pieces, IsBuiltFrom s source p pieces := by
  obtain ⟨pieces, records, encoded, rfl⟩ := assemble_eq_ok_iff.mp done
  refine ⟨pieces, records, rfl, encoded, fun piece member => ?_⟩
  refine Piece.advance_eq ?_ (encoded piece member)
  have listed : piece.record ∈ Layout.recordsOf s 1 0 (Text.lines source) := by
    rw [show Layout.recordsOf s 1 0 (Text.lines source) = _ from records.symm]
    exact List.mem_map_of_mem member
  exact Layout.recordsOf_isRecord listed

theorem sum_advance (s : Settings codecs) (pieces : List Piece)
    (advance : ∀ piece ∈ pieces,
      (Layout.advance s piece.record.raw : Int) = piece.entry.size + piece.entry.drift s) :
    (total (pieces.map fun piece => Layout.advance s piece.record.raw) : Int) =
      ((pieces.map Piece.entry).map Entry.size).sum + ((pieces.map Piece.entry).map (Entry.drift s)).sum := by
  induction pieces with
  | nil => rfl
  | cons piece rest ih =>
    rw [List.forall_mem_cons] at advance
    have later := ih advance.2
    simp only [List.map_cons, total_cons, List.sum_cons, Int.natCast_add, advance.1, later]
    omega

theorem IsBuiltFrom.entries_eq {s : Settings codecs} {source : Text} {p : Program} {pieces : List Piece}
    (built : IsBuiltFrom s source p pieces) : p.entries = pieces.map Piece.entry := by
  rw [built.program, programOf]

theorem IsBuiltFrom.record_address {s : Settings codecs} {source : Text} {p : Program} {pieces : List Piece}
    (built : IsBuiltFrom s source p pieces) {k : Nat} {piece : Piece} (found : pieces[k]? = some piece) :
    piece.record.address = total ((pieces.take k).map fun earlier => Layout.advance s earlier.record.raw) := by
  have record : (Layout.recordsOf s 1 0 (Text.lines source))[k]? = some piece.record := by
    rw [← built.records, List.getElem?_map, found, Option.map_some]
  have address := Layout.recordsOf_address record
  rwa [← built.records, ← List.map_take, List.map_map, Nat.zero_add] at address

theorem IsBuiltFrom.entry_address {s : Settings codecs} {source : Text} {p : Program} {pieces : List Piece}
    (built : IsBuiltFrom s source p pieces) {k : Nat} {entry : Entry} (found : p.entries[k]? = some entry) :
    entry.address = ((p.entries.take k).map Entry.size).sum + ((p.entries.take k).map (Entry.drift s)).sum := by
  rw [built.entries_eq, List.getElem?_map] at found
  obtain ⟨piece, atIndex, rfl⟩ := Option.map_eq_some_iff.mp found
  have total := sum_advance s (pieces.take k)
    (fun earlier member => built.advance earlier (List.mem_of_mem_take member))
  rw [built.entries_eq, ← List.map_take, ← total]
  exact congrArg Int.ofNat (built.record_address atIndex)

theorem IsBuiltFrom.label_addresses {s : Settings codecs} {source : Text} {p : Program} {pieces : List Piece}
    (built : IsBuiltFrom s source p pieces) :
    p.labels.bindings = (Layout.labelLines 1 (Text.lines source)).map fun label =>
      (label.1, p.totalBefore Entry.size label.2 + p.totalBefore (Entry.drift s) label.2) := by
  have labels : p.labels.bindings = Layout.bindingsOf s 1 0 (Text.lines source) := by
    rw [built.program, programOf]
  rw [labels, Layout.bindingsOf_eq]
  refine List.map_congr_left (fun label _ => ?_)
  have total := sum_advance s (pieces.filter fun piece => piece.record.line < label.2)
    (fun earlier member => built.advance earlier (List.mem_of_mem_filter member))
  have before (quantity : Entry → Int) : p.totalBefore quantity label.2 =
      (((pieces.filter fun piece => piece.record.line < label.2).map Piece.entry).map quantity).sum := by
    rw [Program.totalBefore, built.entries_eq, List.filter_map]
    simp [Function.comp_def, Piece.entry]
  rw [before, before, ← total, Layout.advanceBefore, ← built.records, List.filter_map, List.map_map]
  simp [Function.comp_def]

theorem IsBuiltFrom.entries_lines {s : Settings codecs} {source : Text} {p : Program} {pieces : List Piece}
    (built : IsBuiltFrom s source p pieces) :
    (p.entries.map fun e => (e.raw, e.line)) =
      (Layout.codeLines 1 (Text.lines source)).map fun line => (line.1, (line.2 : Int)) := by
  rw [built.entries_eq, ← Layout.recordsOf_lines s 1 0, ← built.records]
  simp [Function.comp_def, Piece.entry]

theorem sum_sizes (pieces : List Piece) :
    ((pieces.map Piece.entry).map Entry.size).sum = (pieces.flatMap Piece.bytes).length := by
  induction pieces with
  | nil => rfl
  | cons piece rest ih =>
    rw [List.map_cons, List.map_cons, List.sum_cons, ih, List.flatMap_cons, List.length_append,
      Int.natCast_add]
    rfl

/-- The exact account of addresses. Every entry is a line of code or data, and both entries and
labels lie past the bytes before them by the sum of the drifts before them. The image is the
header and the encodings of the entries, one after the other. -/
theorem assemble_address_account {s : Settings codecs} {source file : Text} {p : Program}
    (done : (assemble s source file).outcome = .ok p) :
    (p.entries.map fun e => (e.raw, e.line)) =
        (Layout.codeLines 1 (Text.lines source)).map (fun line => (line.1, (line.2 : Int))) ∧
      (∀ (k : Nat) (entry : Entry), p.entries[k]? = some entry →
        entry.address - ((p.entries.take k).map Entry.size).sum =
          ((p.entries.take k).map (Entry.drift s)).sum) ∧
      p.labels.bindings = (Layout.labelLines 1 (Text.lines source)).map (fun label =>
        (label.1, p.totalBefore Entry.size label.2 + p.totalBefore (Entry.drift s) label.2)) ∧
      (∃ encodings : List Bytes,
        List.Forall₂ (fun entry bytes => entry.size = (bytes.length : Int) ∧
          ((s.emission p.labels).encode (Statement.read entry.raw)).outcome = .ok bytes)
          p.entries encodings ∧
        p.image = magic ++ encodings.flatten) ∧
      (p.entries.map Entry.size).sum = p.body.length := by
  obtain ⟨pieces, built⟩ := exists_isBuiltFrom done
  refine ⟨built.entries_lines, ?_, built.label_addresses, ?_, ?_⟩
  · intro k entry found
    rw [built.entry_address found]
    omega
  · refine ⟨pieces.map Piece.bytes, ?_, ?_⟩
    · rw [built.entries_eq, List.forall₂_map_left_iff, List.forall₂_map_right_iff, List.forall₂_same]
      exact fun piece member => ⟨rfl, built.encoded piece member⟩
    · rw [built.program, programOf, Header.add, List.flatMap_def]
  · rw [built.entries_eq, sum_sizes, built.program, body_programOf]

/-- In legacy sizing, a misread data line and a text of three characters move the label and the
line after them by one byte on and two bytes back. -/
theorem assemble_address_account_legacy : ∃ (s : Settings .standard) (p : Program),
    s.legacySizing = true ∧
      (assemble s ".DATA\t 7\n.DATA 'abc'\nslutt:\nSTOPP".toList "<input>".toList).outcome = .ok p ∧
      p.entries.map (Entry.drift s) = [1, -2, 0] ∧
      (∀ entry, p.entries[2]? = some entry → entry.address - (1 + 3) = 1 - 2) ∧
      p.labels.bindings = [("slutt".toList, (1 + 3) + (1 - 2))] ∧
      p.body.length = 1 + 3 + 2 := by
  let s : Settings .standard := .latin1 true true
  have done : (assemble s ".DATA\t 7\n.DATA 'abc'\nslutt:\nSTOPP".toList "<input>".toList).outcome = .ok
      ⟨magic ++ [7, 97, 98, 99, 0, 0],
        [⟨0, 1, ".DATA\t 7".toList, 1⟩, ⟨2, 2, ".DATA 'abc'".toList, 3⟩, ⟨3, 4, "STOPP".toList, 2⟩],
        ⟨[("slutt".toList, 3)]⟩⟩ := by
    decide +kernel
  obtain ⟨_, addresses, labels, _, sizes⟩ := assemble_address_account done
  refine ⟨s, _, rfl, done, by decide +kernel, fun entry found => ?_, ?_, ?_⟩
  · exact addresses 2 entry found
  · exact labels
  · exact Int.ofNat.inj sizes.symm

theorem IsBuiltFrom.line_lt_of_take {s : Settings codecs} {source : Text} {p : Program} {pieces : List Piece}
    (built : IsBuiltFrom s source p pieces) {k : Nat} {entry earlier : Entry}
    (found : p.entries[k]? = some entry) (taken : earlier ∈ p.entries.take k) :
    earlier.line < entry.line := by
  have sorted := Layout.recordsOf_sorted s 1 0 (Text.lines source)
  rw [← built.records, List.pairwise_map] at sorted
  have entries : p.entries.Pairwise (fun e later => e.line < later.line) := by
    rw [built.entries_eq, List.pairwise_map]
    exact sorted.imp Int.ofNat_lt.mpr
  have dropped : (p.entries.drop k)[0]? = some entry := by
    rw [List.getElem?_drop, Nat.add_zero, found]
  exact entries.rel_of_mem_take_of_mem_drop taken (List.mem_of_getElem? dropped)

theorem IsBuiltFrom.isFollowed_iff {s : Settings codecs} {source : Text} {p : Program} {pieces : List Piece}
    (built : IsBuiltFrom s source p pieces) (line : Int) :
    Layout.IsFollowed source line ↔ (∃ later ∈ p.entries, line < later.line) ∨
      ∃ label ∈ Layout.labelLines 1 (Text.lines source), line < label.2 := by
  have lines : p.entries.map Entry.line =
      (Layout.codeLines 1 (Text.lines source)).map fun line => (line.2 : Int) := by
    have both := congrArg (List.map Prod.snd) built.entries_lines
    rwa [List.map_map, List.map_map] at both
  have code : (∃ number ∈ p.entries.map Entry.line, line < number) ↔
      ∃ number ∈ (Layout.codeLines 1 (Text.lines source)).map fun line => (line.2 : Int), line < number := by
    rw [lines]
  simp only [List.mem_map, exists_exists_and_eq_and] at code
  rw [code, Layout.IsFollowed]
  simp only [List.mem_append, or_and_right, exists_or]

theorem sum_drift_take_succ {s : Settings codecs} {entries : List Entry} {k : Nat} {entry : Entry}
    (found : entries[k]? = some entry) :
    ((entries.take (k + 1)).map (Entry.drift s)).sum =
      ((entries.take k).map (Entry.drift s)).sum + entry.drift s := by
  rw [List.take_add_one, found]
  simp

/-- What follows the last entry is a label, and all entries lie before it. -/
theorem IsBuiltFrom.totalBefore_of_last {s : Settings codecs} {source : Text} {p : Program} {pieces : List Piece}
    (built : IsBuiltFrom s source p pieces) {k : Nat} {entry : Entry} (found : p.entries[k]? = some entry)
    (last : p.entries.take (k + 1) = p.entries) (followed : Layout.IsFollowed source entry.line)
    (quantity : Entry → Int) : ∃ label ∈ Layout.labelLines 1 (Text.lines source),
      p.totalBefore quantity label.2 = (p.entries.map quantity).sum := by
  have bound : ∀ e ∈ p.entries, e.line ≤ entry.line := by
    intro e member
    rw [← last, List.take_add_one, found] at member
    rcases List.mem_append.mp member with earlier | same
    · exact Int.le_of_lt (built.line_lt_of_take found earlier)
    · exact Int.le_of_eq (congrArg Entry.line (List.mem_singleton.mp same))
  rcases (built.isFollowed_iff _).mp followed with ⟨later, member, after⟩ | ⟨label, member, after⟩
  · exact absurd (bound later member) (Int.not_le.mpr after)
  · refine ⟨label, member, ?_⟩
    rw [Program.totalBefore, List.filter_eq_self.mpr]
    intro e listed
    exact decide_eq_true (Int.lt_of_le_of_lt (bound e listed) after)

/-- The drifts before every entry and every label cancel out exactly if each entry that something
follows has no drift of its own. -/
theorem IsBuiltFrom.drifts_vanish_iff {s : Settings codecs} {source : Text} {p : Program} {pieces : List Piece}
    (built : IsBuiltFrom s source p pieces) :
    ((∀ (k : Nat) (entry : Entry), p.entries[k]? = some entry →
        ((p.entries.take k).map (Entry.drift s)).sum = 0) ∧
      ∀ label ∈ Layout.labelLines 1 (Text.lines source), p.totalBefore (Entry.drift s) label.2 = 0) ↔
    ∀ entry ∈ p.entries, Layout.IsFollowed source entry.line → entry.drift s = 0 := by
  constructor
  · rintro ⟨atEntries, atLabels⟩ entry member followed
    obtain ⟨k, found⟩ := List.getElem?_of_mem member
    have here := atEntries k entry found
    -- The drift of the entry is the difference of two sums: up to it, and up to what follows it.
    have next : ((p.entries.take (k + 1)).map (Entry.drift s)).sum = 0 := by
      cases following : p.entries[k + 1]? with
      | some later => exact atEntries (k + 1) later following
      | none =>
        have last := List.take_of_length_le (List.getElem?_eq_none_iff.mp following)
        obtain ⟨label, listed, all⟩ := built.totalBefore_of_last found last followed (Entry.drift s)
        rw [last, ← all, atLabels label listed]
    rw [sum_drift_take_succ found] at next
    omega
  · intro exact
    constructor
    · intro k entry found
      refine List.sum_eq_zero (fun drift summand => ?_)
      obtain ⟨earlier, taken, rfl⟩ := List.mem_map.mp summand
      refine exact earlier (List.mem_of_mem_take taken) ((built.isFollowed_iff _).mpr (Or.inl ⟨entry, ?_, ?_⟩))
      · exact List.mem_of_getElem? found
      · exact built.line_lt_of_take found taken
    · intro label member
      refine List.sum_eq_zero (fun drift summand => ?_)
      obtain ⟨earlier, kept, rfl⟩ := List.mem_map.mp summand
      obtain ⟨listed, before⟩ := List.mem_filter.mp kept
      refine exact earlier listed ((built.isFollowed_iff _).mpr (Or.inr ⟨label, member, ?_⟩))
      exact of_decide_eq_true before

/-- In exact sizing, every entry and every label has the number of bytes before it as its address
exactly if each misread line that something follows gives two bytes. -/
theorem addresses_agree_iff {s : Settings codecs} {source file : Text} {p : Program}
    (sizing : s.legacySizing = false) (done : (assemble s source file).outcome = .ok p) :
    ((∀ (k : Nat) (entry : Entry), p.entries[k]? = some entry →
        entry.address = ((p.entries.take k).map Entry.size).sum) ∧
      p.labels.bindings = (Layout.labelLines 1 (Text.lines source)).map fun label =>
        (label.1, p.totalBefore Entry.size label.2)) ↔
    ∀ entry ∈ p.entries, entry.IsMisread → Layout.IsFollowed source entry.line → entry.size = 2 := by
  obtain ⟨pieces, built⟩ := exists_isBuiltFrom done
  have drifts := built.drifts_vanish_iff
  have entries : (∀ (k : Nat) (entry : Entry), p.entries[k]? = some entry →
        entry.address = ((p.entries.take k).map Entry.size).sum) ↔
      ∀ (k : Nat) (entry : Entry), p.entries[k]? = some entry →
        ((p.entries.take k).map (Entry.drift s)).sum = 0 := by
    refine forall₃_congr (fun k entry found => ?_)
    rw [built.entry_address found]
    omega
  have labels : p.labels.bindings = (Layout.labelLines 1 (Text.lines source)).map (fun label =>
        (label.1, p.totalBefore Entry.size label.2)) ↔
      ∀ label ∈ Layout.labelLines 1 (Text.lines source), p.totalBefore (Entry.drift s) label.2 = 0 := by
    rw [built.label_addresses, List.map_inj_left]
    refine forall₂_congr (fun label _ => ?_)
    simp only [Prod.mk.injEq, true_and]
    omega
  rw [entries, labels, drifts]
  refine forall₂_congr (fun entry _ => ?_)
  rw [Entry.drift_of_exact sizing]
  by_cases misread : entry.IsMisread
  · simp only [misread, if_true, forall_const]
    refine imp_congr_right (fun _ => ?_)
    omega
  · simp [misread]

/-- A misread line of two bytes does no harm to what follows it. -/
theorem addresses_agree_two_bytes : ∃ p : Program,
    (assemble .standard ".DATA\t 1, 2\nslutt:\nHOPP slutt".toList "<input>".toList).outcome = .ok p ∧
      (∃ entry ∈ p.entries, entry.IsMisread) ∧
      (∀ (k : Nat) (entry : Entry), p.entries[k]? = some entry →
        entry.address = ((p.entries.take k).map Entry.size).sum) ∧
      p.labels.bindings = [("slutt".toList, 2)] := by
  have done : (assemble .standard ".DATA\t 1, 2\nslutt:\nHOPP slutt".toList "<input>".toList).outcome = .ok
      ⟨magic ++ [1, 2, 0x28, 0],
        [⟨0, 1, ".DATA\t 1, 2".toList, 2⟩, ⟨2, 3, "HOPP slutt".toList, 2⟩],
        ⟨[("slutt".toList, 2)]⟩⟩ := by
    decide +kernel
  obtain ⟨addresses, labels⟩ := (addresses_agree_iff rfl done).mpr (by decide +kernel)
  exact ⟨_, done, by decide +kernel, addresses, labels⟩

/-- A misread line of one byte: the label and the line after it lie one byte further on than the
bytes before them. -/
theorem addresses_differ_one_byte : ∃ p : Program,
    (assemble .standard ".DATA\t 1\nslutt:\nSTOPP".toList "<input>".toList).outcome = .ok p ∧
      (¬ ∀ (k : Nat) (entry : Entry), p.entries[k]? = some entry →
        entry.address = ((p.entries.take k).map Entry.size).sum) ∧
      p.labels.bindings ≠ (Layout.labelLines 1 (Text.lines ".DATA\t 1\nslutt:\nSTOPP".toList)).map
        fun label => (label.1, p.totalBefore Entry.size label.2) := by
  have done : (assemble .standard ".DATA\t 1\nslutt:\nSTOPP".toList "<input>".toList).outcome = .ok
      ⟨magic ++ [1, 0, 0],
        [⟨0, 1, ".DATA\t 1".toList, 1⟩, ⟨2, 3, "STOPP".toList, 2⟩],
        ⟨[("slutt".toList, 2)]⟩⟩ := by
    decide +kernel
  refine ⟨_, done, fun agree => ?_, by decide +kernel⟩
  exact absurd (agree 1 _ rfl) (by decide)

end Assembly

end SledeCode
