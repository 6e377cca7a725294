import SledeCode.Proofs.EntryBytes
import SledeCode.Proofs.ListedCells

namespace SledeCode

variable {codecs : Codecs}

theorem Header.remove_add (body : Bytes) : remove (add body) = .ok body := by
  have long : ¬ (add body).length < magic.length := by simp [add]
  have present : isPresent (add body) = true := by simp [isPresent, add]
  rw [remove, if_neg long, if_pos present, add, List.drop_left]

/-- The cell shows a word of code with this mnemonic, which takes these bytes at this address. -/
structure Cell.Recovers (c : Cell) (address : Int) (mnemonic : Text) (bytes : Bytes) : Prop where
  valid : c.valid = true
  isCode : c.isCode = true
  address_eq : c.address = address
  mnemonic_eq : c.mnemonic = mnemonic
  rawBytes_eq : c.rawBytes = .ok bytes

theorem Cell.recovers_decode {i : Instruction} {opcode param : UInt8} (same : i.bytes = [opcode, param])
    (address : Int) :
    (decode opcode.toNat param.toNat address).Recovers address i.mnemonic.name [opcode, param] := by
  have found := Instruction.ofBytes?_of_bytes same
  exact {
    valid := by rw [decode_of_some found]
    isCode := isCode_decode_iff.mpr ⟨i, same⟩
    address_eq := address_decode opcode param address
    mnemonic_eq := mnemonic_decode found address
    rawBytes_eq := rawBytes_decode opcode param address }

/-- The piece is an instruction, and its line starts with the mnemonic of that instruction. -/
def Piece.IsCode (p : Piece) : Prop :=
  ∃ i : Instruction, p.bytes = i.bytes ∧ (Statement.read p.record.raw).mnemonic = i.mnemonic.name

/-- The cells of instructions that follow each other are these instructions, two addresses apart. -/
theorem Disassembly.cells_of_code {pieces : List Piece} (code : ∀ piece ∈ pieces, piece.IsCode) (a : Int) :
    (cells a none (pieces.flatMap Piece.bytes)).length = pieces.length ∧
      ∀ (k : Nat) (c : Cell) (piece : Piece), (cells a none (pieces.flatMap Piece.bytes))[k]? = some c →
        pieces[k]? = some piece →
        c.Recovers (a + 2 * k) (Statement.read piece.record.raw).mnemonic piece.bytes := by
  induction pieces generalizing a with
  | nil => exact ⟨rfl, fun k c piece _ found => by simp at found⟩
  | cons piece rest ih =>
    obtain ⟨⟨i, bytes, mnemonic⟩, later⟩ := List.forall_mem_cons.mp code
    obtain ⟨opcode, param, same⟩ := i.exists_bytes
    obtain ⟨length, recovered⟩ := ih later (a + 2)
    -- An instruction fills one word, so the walk meets the next piece at its first byte.
    have split : cells a none ((piece :: rest).flatMap Piece.bytes) =
        .decode opcode.toNat param.toNat a :: cells (a + 2) none (rest.flatMap Piece.bytes) := by
      rw [List.flatMap_cons, bytes, same]
      rfl
    rw [split]
    refine ⟨by rw [List.length_cons, List.length_cons, length], fun k c shown atCell atPiece => ?_⟩
    cases k with
    | zero =>
      cases atCell
      cases atPiece
      have here := Cell.recovers_decode same a
      rw [← same, ← bytes, ← mnemonic] at here
      simpa using here
    | succ k =>
      have next := recovered k c shown atCell atPiece
      have address : a + 2 + 2 * (k : Int) = a + 2 * ((k + 1 : Nat) : Int) := by omega
      rwa [address] at next

theorem Disassembly.imageCells_add (body : Bytes) (limit : Option Int) :
    (imageCells (Header.add body) limit).outcome = .ok (cells 0 limit body) := by
  have found : (bodyOf (Header.add body)).outcome = .ok body := by
    rw [bodyOf, Header.remove_add]
  exact Run.bind_ok found rfl

namespace Assembly

/-- A line that is not read as data is an instruction in both passes. -/
theorem IsBuiltFrom.isCode_piece {s : Settings codecs} {source : Text} {p : Program} {pieces : List Piece}
    (built : IsBuiltFrom s source p pieces) {piece : Piece} (member : piece ∈ pieces)
    (other : (Statement.read piece.record.raw).mnemonic ≠ dataWord) :
    piece.IsCode ∧ Layout.advance s piece.record.raw = 2 := by
  obtain ⟨m, i, name, denotes, bytes⟩ := (Emission.encode_eq_ok_iff other).mp (built.encoded piece member)
  refine ⟨⟨i, bytes, by rw [name, denotes.mnemonic_eq]⟩, ?_⟩
  have listed : piece.record ∈ Layout.recordsOf s 1 0 (Text.lines source) := by
    rw [← built.records]
    exact List.mem_map_of_mem member
  have record := Layout.recordsOf_isRecord listed
  cases kind : Line.kind piece.record.raw with
  | blank | comment | label => simp [kind, LineKind.isRecord] at record
  | data => exact absurd (Line.mnemonic_of_data kind) other
  | instruction => rw [Layout.advance, kind]

theorem IsBuiltFrom.address_of_advance {s : Settings codecs} {source : Text} {p : Program} {pieces : List Piece}
    (built : IsBuiltFrom s source p pieces) (advance : ∀ piece ∈ pieces, Layout.advance s piece.record.raw = 2)
    {k : Nat} {piece : Piece} (found : pieces[k]? = some piece) : piece.record.address = 2 * k := by
  have before : ∀ earlier ∈ pieces.take k, Layout.advance s earlier.record.raw = 2 :=
    fun earlier taken => advance earlier (List.mem_of_mem_take taken)
  have bound : k < pieces.length := (List.getElem?_eq_some_iff.mp found).1
  rw [built.record_address found, total_map_eq before, List.length_take, Nat.min_eq_left bound.le]

/-- The image of a program without data is disassembled to one cell for each line of code, with
the mnemonic that the line is read with and the bytes that it was encoded to. Lines and cells lie
two bytes apart. -/
theorem imageCells_of_code {s : Settings codecs} {source file : Text} {p : Program}
    (done : (assemble s source file).outcome = .ok p)
    (code : ∀ entry ∈ p.entries, (Statement.read entry.raw).mnemonic ≠ dataWord) :
    ∃ cells, (Disassembly.imageCells p.image none).outcome = .ok cells ∧
      cells.length = p.entries.length ∧
      ∀ (k : Nat) (cell : Cell) (entry : Entry), cells[k]? = some cell → p.entries[k]? = some entry →
        cell.Recovers entry.address (Statement.read entry.raw).mnemonic (p.bytesOf k) ∧
          entry.address = 2 * k ∧
          ((s.emission p.labels).encode (Statement.read entry.raw)).outcome = .ok (p.bytesOf k) := by
  obtain ⟨pieces, built⟩ := exists_isBuiltFrom done
  have each : ∀ piece ∈ pieces, piece.IsCode ∧ Layout.advance s piece.record.raw = 2 := by
    intro piece member
    refine built.isCode_piece member (code piece.entry ?_)
    rw [built.entries_eq]
    exact List.mem_map_of_mem member
  have image : p.image = Header.add (pieces.flatMap Piece.bytes) := by rw [built.program, programOf]
  obtain ⟨length, recovered⟩ := Disassembly.cells_of_code (fun piece member => (each piece member).1) 0
  refine ⟨_, by rw [image, Disassembly.imageCells_add], by rw [length, built.entries_eq, List.length_map], ?_⟩
  intro k cell entry atCell atEntry
  have encoded := built.encode_entry atEntry
  rw [built.entries_eq, List.getElem?_map] at atEntry
  obtain ⟨piece, atPiece, rfl⟩ := Option.map_eq_some_iff.mp atEntry
  have address : piece.entry.address = 2 * k := by
    have place := built.address_of_advance (fun piece member => (each piece member).2) atPiece
    simp only [Piece.entry, place]
    omega
  have shown := recovered k cell piece atCell atPiece
  rw [Int.zero_add, ← address, ← built.bytesOf_eq atPiece] at shown
  exact ⟨shown, address, encoded⟩

theorem imageCells_of_code_loop : ∃ p cells,
    (assemble .standard "; ned\nSETT r1, 3\nopp:\nMINUS r1, r2\n\nULIK r1, r0\n  BHOPP opp ; igjen\nSTOPP".toList
      "<input>".toList).outcome = .ok p ∧
      (∀ entry ∈ p.entries, (Statement.read entry.raw).mnemonic ≠ dataWord) ∧
      (Disassembly.imageCells p.image none).outcome = .ok cells ∧ cells.length = 5 ∧
      ∀ cell, cells[3]? = some cell → cell.Recovers 6 "BHOPP".toList [0x29, 0] := by
  let p : Program := ⟨magic ++ [0x11, 3, 0x65, 0x21, 0x17, 1, 0x29, 0, 0, 0],
    [⟨0, 2, "SETT r1, 3".toList, 2⟩, ⟨2, 4, "MINUS r1, r2".toList, 2⟩, ⟨4, 6, "ULIK r1, r0".toList, 2⟩,
      ⟨6, 7, "BHOPP opp ; igjen".toList, 2⟩, ⟨8, 8, "STOPP".toList, 2⟩], ⟨[("opp".toList, 2)]⟩⟩
  have done : (assemble .standard
      "; ned\nSETT r1, 3\nopp:\nMINUS r1, r2\n\nULIK r1, r0\n  BHOPP opp ; igjen\nSTOPP".toList
      "<input>".toList).outcome = .ok p := by
    decide +kernel
  have code : ∀ entry ∈ p.entries, (Statement.read entry.raw).mnemonic ≠ dataWord := by decide +kernel
  obtain ⟨cells, shown, length, recovered⟩ := imageCells_of_code done code
  refine ⟨p, cells, done, code, shown, length, fun cell atCell => ?_⟩
  obtain ⟨recovers, -, -⟩ := recovered 3 cell _ atCell rfl
  exact recovers

end Assembly

end SledeCode
