import SledeCode.Proofs.AddressDrift

namespace SledeCode

variable {codecs : Codecs}

theorem window_append {α : Type} (before middle after : List α) :
    window (before ++ middle ++ after) before.length ((before.length + middle.length : Nat) : Int) = middle := by
  have place (n : Nat) : (if (n : Int) < 0 then (n : Int) + (before ++ middle ++ after).length else n).toNat = n := by
    split <;> omega
  have start : min before.length (before ++ middle ++ after).length = before.length := by
    simp only [List.length_append]
    omega
  have stop : min (before.length + middle.length) (before ++ middle ++ after).length =
      (before ++ middle).length := by
    simp only [List.length_append]
    omega
  simp only [window, place, start, stop, List.take_left, List.drop_left]

/-- The bytes of an entry: those that follow the bytes of the entries before it. -/
def Program.bytesOf (p : Program) (k : Nat) : Bytes :=
  window p.body ((p.entries.take k).map Entry.size).sum ((p.entries.take (k + 1)).map Entry.size).sum

namespace Assembly

theorem IsBuiltFrom.body_eq {s : Settings codecs} {source : Text} {p : Program} {pieces : List Piece}
    (built : IsBuiltFrom s source p pieces) : p.body = pieces.flatMap Piece.bytes := by
  rw [built.program, body_programOf]

theorem IsBuiltFrom.bytesOf_eq {s : Settings codecs} {source : Text} {p : Program} {pieces : List Piece}
    (built : IsBuiltFrom s source p pieces) {k : Nat} {piece : Piece} (found : pieces[k]? = some piece) :
    p.bytesOf k = piece.bytes := by
  have next : pieces.take (k + 1) = pieces.take k ++ [piece] := by
    rw [List.take_add_one, found, Option.toList_some]
  have stop : ((pieces.take (k + 1)).flatMap Piece.bytes).length =
      ((pieces.take k).flatMap Piece.bytes).length + piece.bytes.length := by
    rw [next]
    simp
  have body : pieces.flatMap Piece.bytes = (pieces.take k).flatMap Piece.bytes ++ piece.bytes ++
      (pieces.drop (k + 1)).flatMap Piece.bytes := by
    conv => lhs; rw [← List.take_append_drop (k + 1) pieces, next]
    simp
  rw [Program.bytesOf, built.body_eq, built.entries_eq, ← List.map_take, ← List.map_take, sum_sizes, sum_sizes,
    stop, body, window_append]

/-- What stands in the body for an entry is the encoding of its line. -/
theorem IsBuiltFrom.encode_entry {s : Settings codecs} {source : Text} {p : Program} {pieces : List Piece}
    (built : IsBuiltFrom s source p pieces) {k : Nat} {entry : Entry} (found : p.entries[k]? = some entry) :
    ((s.emission p.labels).encode (Statement.read entry.raw)).outcome = .ok (p.bytesOf k) := by
  rw [built.entries_eq, List.getElem?_map] at found
  obtain ⟨piece, atIndex, rfl⟩ := Option.map_eq_some_iff.mp found
  rw [built.bytesOf_eq atIndex]
  exact built.encoded piece (List.mem_of_getElem? atIndex)

end Assembly

end SledeCode
