import SledeCode.Proofs.EntryBytes
import SledeCode.Proofs.FirstFailure
import SledeCode.Proofs.ListedCharacters

namespace SledeCode

variable {codecs : Codecs}

namespace Text

theorem isControlFree_spaces (n : Nat) : IsControlFree (List.replicate n ' ') := by
  intro c member
  obtain rfl := List.eq_of_mem_replicate member
  decide

theorem IsControlFree.padRight {t : Text} (free : IsControlFree t) (width : Nat) : IsControlFree (padRight width t) :=
  free.append (isControlFree_spaces _)

theorem IsControlFree.padLeft {t : Text} (free : IsControlFree t) (width : Nat) : IsControlFree (padLeft width t) :=
  (isControlFree_spaces _).append free

theorem isControlFree_integer (n : Int) : IsControlFree (integer n) := by
  unfold integer signed
  split
  · exact .cons (by decide) (isControlFree_decimal _)
  · exact isControlFree_decimal _

theorem space_not_mem_hexField (width : Nat) (n : Int) : ' ' ∉ hexField width n := by
  have digits (places m : Nat) : ' ' ∉ zeroPad places (hexUpper m) := by
    intro member
    exact forall_mem_zeroPad (P := (· ≠ ' ')) (by decide) places m ' ' member rfl
  unfold hexField signed
  split
  · intro member
    rcases List.mem_cons.mp member with sign | digit
    · exact absurd sign (by decide)
    · exact digits _ _ digit
  · exact digits _ _

theorem trimRight_append_spaces (t : Text) (n : Nat) : trimRight (t ++ List.replicate n ' ') = trimRight t := by
  have blank : ∀ c ∈ List.replicate n ' ', isBlank c = true := by
    intro c member
    rw [List.eq_of_mem_replicate member]
    decide
  rw [trimRight, List.reverse_append, List.reverse_replicate, List.dropWhile_append_of_pos blank]
  rfl

theorem length_hexByte (b : UInt8) : (hexByte b).length = 2 := by
  have bound := b.toNat_lt
  have short : (hexUpper b.toNat).length ≤ 2 := by
    rw [hexUpper, List.length_map]
    exact (Nat.length_toDigits_le_iff (by decide) (by decide)).mpr bound
  rw [hexByte, zeroPad, List.length_append, List.length_replicate]
  omega

theorem hexByte_isWord (b : UInt8) : IsWord (hexByte b) :=
  ⟨zeroPad_hexUpper_ne_nil 2 b.toNat, forall_mem_zeroPad (by decide) 2 b.toNat⟩

/-- Texts of two characters with a space between each two. -/
theorem length_spaced {ts : List Text} (pairs : ∀ t ∈ ts, t.length = 2) :
    (List.intercalate [' '] ts).length = 3 * ts.length - 1 := by
  induction ts with
  | nil => rfl
  | cons t rest ih =>
    obtain ⟨first, later⟩ := List.forall_mem_cons.mp pairs
    cases rest with
    | nil => simp [first]
    | cons u others =>
      have tail := ih later
      simp only [List.intercalate_cons_cons, List.length_append, List.length_cons, List.length_nil] at tail ⊢
      omega

end Text

namespace Program

/-- What stands in the column of the bytes: fourteen characters behind the address and two spaces, without
the spaces that fill the column up. -/
def bytesColumn (row : Text) : Text := Text.trimRight (((row.dropWhile (· != ' ')).drop 2).take 14)

theorem isControlFree_bytesShown (bs : Bytes) : (bytesShown bs).IsControlFree := by
  refine Text.IsControlFree.append (fun c member => ?_) ?_
  · rcases Text.mem_intercalate member with ⟨t, listed, inside⟩ | space
    · obtain ⟨b, _, rfl⟩ := List.mem_map.mp listed
      exact Text.isControlFree_hexByte b c inside
    · obtain rfl := List.mem_singleton.mp space
      decide
  · split
    · exact Text.isControlFree_of_all rfl
    · exact Text.isControlFree_of_all rfl

theorem length_bytesShown_le (bs : Bytes) : (bytesShown bs).length ≤ 14 := by
  have bytes : (List.intercalate [' '] ((bs.take 4).map Text.hexByte)).length = 3 * min 4 bs.length - 1 := by
    rw [Text.length_spaced, List.length_map, List.length_take]
    intro t listed
    obtain ⟨b, _, rfl⟩ := List.mem_map.mp listed
    exact Text.length_hexByte b
  have points : (if 4 < bs.length then " ..".toList else []).length ≤ 3 := by
    split <;> decide
  rw [bytesShown, List.length_append, bytes]
  omega

theorem trimRight_bytesShown (bs : Bytes) : Text.trimRight (bytesShown bs) = bytesShown bs := by
  unfold bytesShown
  split
  · have point : Text.isBlank '.' = false := by decide
    have ends := Text.trimRight_append_cons point
      (List.intercalate [' '] ((bs.take 4).map Text.hexByte) ++ [' ', '.']) []
    rw [List.append_assoc, List.append_assoc] at ends
    exact ends
  · rw [List.append_nil]
    by_cases empty : (bs.take 4).map Text.hexByte = []
    · rw [empty]
      rfl
    · obtain ⟨front, same⟩ := Text.intercalate_ends [' '] empty
      obtain ⟨b, _, last⟩ := List.mem_map.mp (List.getLast_mem empty)
      rw [same, ← last]
      exact Text.trimRight_append (Text.hexByte_isWord b).nonempty (Text.hexByte_isWord b).trim_eq front

/-- The column of the bytes shows them whatever stands in the other columns. -/
theorem bytesColumn_listingRow (e : Entry) (bs : Bytes) : bytesColumn (listingRow e bs) = bytesShown bs := by
  have width : (Text.padRight 14 (bytesShown bs)).length = 14 := by
    have fits := length_bytesShown_le bs
    rw [Text.padRight, List.length_append, List.length_replicate]
    omega
  have columns : listingRow e bs = Text.hexField 3 e.address ++ ' ' :: ' ' :: (Text.padRight 14 (bytesShown bs) ++
      ' ' :: (Text.padLeft 5 (Text.integer e.line) ++ "  ".toList ++ e.raw)) := by
    simp [listingRow]
  have behind : (listingRow e bs).dropWhile (· != ' ') = ' ' :: ' ' :: (Text.padRight 14 (bytesShown bs) ++
      ' ' :: (Text.padLeft 5 (Text.integer e.line) ++ "  ".toList ++ e.raw)) := by
    have address := Text.bne_of_not_mem (Text.space_not_mem_hexField 3 e.address)
    rw [columns, List.dropWhile_append_of_pos address, List.dropWhile_cons_of_neg (by decide)]
  rw [bytesColumn, behind, List.drop_succ_cons, List.drop_succ_cons, List.drop_zero, List.take_left' width,
    Text.padRight, Text.trimRight_append_spaces, trimRight_bytesShown]

theorem newline_not_mem_listingRow {e : Entry} (inline : '\n' ∉ e.raw) (bs : Bytes) : '\n' ∉ listingRow e bs := by
  have gap : Text.IsControlFree "  ".toList := Text.isControlFree_of_all rfl
  have address := (Text.isControlFree_hexField 3 e.address).append gap
  have bytes := (isControlFree_bytesShown bs).padRight 14
  have number := (Text.isControlFree_integer e.line).padLeft 5
  have front := ((address.append bytes).append (.cons (show ' ' ≤ ' ' by decide) number)).append gap
  intro member
  rw [listingRow] at member
  rcases List.mem_append.mp member with inFront | inSource
  · exact front.not_mem (by decide) inFront
  · exact inline inSource

/-- The rows take from the image, from where the last row ended, what each line has put there. -/
theorem listingRows_pieces (before : Bytes) (pieces : List Piece) :
    listingRows (before ++ pieces.flatMap Piece.bytes) before.length (pieces.map Piece.entry) =
      pieces.map fun piece => listingRow piece.entry piece.bytes := by
  induction pieces generalizing before with
  | nil => rfl
  | cons piece rest ih =>
    have image : before ++ (piece :: rest).flatMap Piece.bytes =
        before ++ piece.bytes ++ rest.flatMap Piece.bytes := by
      rw [List.flatMap_cons, List.append_assoc]
    have own := window_append before piece.bytes (rest.flatMap Piece.bytes)
    have later := ih (before ++ piece.bytes)
    rw [List.length_append] at later
    rw [image, List.map_cons, List.map_cons, listingRows, ← later]
    exact congrArg (fun bytes => listingRow piece.entry bytes :: _) own

end Program

namespace Assembly

theorem IsBuiltFrom.listing_eq {s : Settings codecs} {source : Text} {p : Program} {pieces : List Piece}
    (built : IsBuiltFrom s source p pieces) :
    p.listing = (pieces.map fun piece => Program.listingRow piece.entry piece.bytes).flatMap (· ++ ['\n']) := by
  have image : p.image = magic ++ pieces.flatMap Piece.bytes := by rw [built.program, programOf, Header.add]
  rw [Program.listing, image, built.entries_eq, Program.listingRows_pieces]

theorem IsBuiltFrom.newline_not_mem_raw {s : Settings codecs} {source : Text} {p : Program} {pieces : List Piece}
    (built : IsBuiltFrom s source p pieces) {piece : Piece} (member : piece ∈ pieces) :
    '\n' ∉ piece.record.raw := by
  have listed : piece.record ∈ (Layout.ofSource s source).records := by
    show piece.record ∈ Layout.recordsOf s 1 0 (Text.lines source)
    rw [← built.records]
    exact List.mem_map_of_mem member
  obtain ⟨_, held⟩ := Layout.line_of_record listed
  obtain ⟨line, atLine, trimmed⟩ := Option.map_eq_some_iff.mp held
  rw [← trimmed]
  intro inside
  exact Text.not_mem_of_mem_splitOn (List.mem_of_getElem? atLine) (Text.trim_subset line inside)

/-- The listing of a program has one line for each entry, in order. The bytes in the row of an entry are those
that its own line is encoded to, the first four and two points for the others, whatever address the entry has. -/
theorem listing_shows_own_bytes {s : Settings codecs} {source file : Text} {p : Program}
    (done : (assemble s source file).outcome = .ok p) :
    ∃ rows : List Text, p.listing = rows.flatMap (· ++ ['\n']) ∧ rows.length = p.entries.length ∧
      (∀ row ∈ rows, '\n' ∉ row) ∧
      ∀ (k : Nat) (entry : Entry) (row : Text), p.entries[k]? = some entry → rows[k]? = some row →
        ∃ bytes, ((s.emission p.labels).encode (Statement.read entry.raw)).outcome = .ok bytes ∧
          row = Program.listingRow entry bytes ∧
          Program.bytesColumn row = List.intercalate [' '] ((bytes.take 4).map Text.hexByte) ++
            (if 4 < bytes.length then " ..".toList else []) := by
  obtain ⟨pieces, built⟩ := exists_isBuiltFrom done
  refine ⟨_, built.listing_eq, by rw [List.length_map, built.entries_eq, List.length_map], ?_, ?_⟩
  · intro row listed
    obtain ⟨piece, member, rfl⟩ := List.mem_map.mp listed
    exact Program.newline_not_mem_listingRow (built.newline_not_mem_raw member) piece.bytes
  · intro k entry row atEntry atRow
    rw [built.entries_eq, List.getElem?_map] at atEntry
    obtain ⟨piece, atPiece, rfl⟩ := Option.map_eq_some_iff.mp atEntry
    rw [List.getElem?_map, atPiece] at atRow
    cases atRow
    exact ⟨piece.bytes, built.encoded piece (List.mem_of_getElem? atPiece), rfl,
      Program.bytesColumn_listingRow piece.entry piece.bytes⟩

/-- In legacy sizing the rows keep to the bytes although the addresses fall behind them: a text of six bytes
moves the address on by one. -/
theorem listing_shows_own_bytes_legacy : ∃ (s : Settings .standard) (p : Program) (rows : List Text),
    s.legacySizing = true ∧
      (assemble s ".DATA 'sledes'\n.DATA\nslutt:\nHOPP slutt".toList "<input>".toList).outcome = .ok p ∧
      p.listing = rows.flatMap (· ++ ['\n']) ∧ rows.length = 3 ∧
      (∀ row, rows[0]? = some row → Program.bytesColumn row = "73 6C 65 64 ..".toList) ∧
      (∀ row, rows[1]? = some row → Program.bytesColumn row = []) ∧
      ∀ row, rows[2]? = some row → row = "001  18 00              4  HOPP slutt".toList := by
  let s : Settings .standard := .latin1 true true
  let p : Program := ⟨magic ++ [0x73, 0x6C, 0x65, 0x64, 0x65, 0x73, 0x18, 0],
    [⟨0, 1, ".DATA 'sledes'".toList, 6⟩, ⟨1, 2, ".DATA".toList, 0⟩, ⟨1, 4, "HOPP slutt".toList, 2⟩],
    ⟨[("slutt".toList, 1)]⟩⟩
  have done : (assemble s ".DATA 'sledes'\n.DATA\nslutt:\nHOPP slutt".toList "<input>".toList).outcome = .ok p := by
    decide +kernel
  obtain ⟨rows, listing, length, _, shown⟩ := listing_shows_own_bytes done
  refine ⟨s, p, rows, rfl, done, listing, length, fun row atRow => ?_, fun row atRow => ?_, fun row atRow => ?_⟩
  · obtain ⟨bytes, encoded, -, column⟩ := shown 0 _ row rfl atRow
    have six : ((s.emission p.labels).encode (Statement.read ".DATA 'sledes'".toList)).outcome =
        .ok [0x73, 0x6C, 0x65, 0x64, 0x65, 0x73] := by decide +kernel
    rw [column, ← Except.ok.inj (six.symm.trans encoded)]
    decide +kernel
  · obtain ⟨bytes, encoded, -, column⟩ := shown 1 _ row rfl atRow
    have none : ((s.emission p.labels).encode (Statement.read ".DATA".toList)).outcome = .ok [] := by
      decide +kernel
    rw [column, ← Except.ok.inj (none.symm.trans encoded)]
    decide +kernel
  · obtain ⟨bytes, encoded, whole, -⟩ := shown 2 _ row rfl atRow
    have two : ((s.emission p.labels).encode (Statement.read "HOPP slutt".toList)).outcome =
        .ok [0x18, 0] := by decide +kernel
    rw [whole, ← Except.ok.inj (two.symm.trans encoded)]
    decide +kernel

end Assembly

end SledeCode
