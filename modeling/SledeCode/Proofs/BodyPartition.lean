import Mathlib.Algebra.BigOperators.Group.List.Basic
import Mathlib.Algebra.Ring.Int.Defs
import SledeCode.Proofs.ListedCells

namespace SledeCode

theorem Cell.size_decode (opcode param : UInt8) (address : Int) :
    (decode opcode.toNat param.toNat address).size = 2 := by
  unfold decode
  dsimp only
  split <;> rfl

namespace Disassembly

variable {data : Bytes} {start : Int}

@[simp] theorem cells_singleton (start : Int) (b : UInt8) : cells start none [b] = [.lone b start] := rfl

@[simp] theorem cells_cons_cons (start : Int) (b c : UInt8) (rest : Bytes) :
    cells start none (b :: c :: rest) = .decode b.toNat c.toNat start :: cells (start + 2) none rest := rfl

theorem byteAt_of_getElem? {k : Nat} {b : UInt8} (found : data[k]? = some b) : byteAt data k = .ok b := by
  have inside : ¬ (k : Int) < 0 := by omega
  simp only [byteAt, if_neg inside, Int.toNat_natCast, found]

theorem cellAt_of_pair {k : Nat} {b c : UInt8} (first : data[k]? = some b) (second : data[k + 1]? = some c)
    (address : Int) : cellAt data k address = .ok (.decode b.toNat c.toNat address) := by
  have bound : k + 1 < data.length := (List.getElem?_eq_some_iff.mp second).1
  have next : byteAt data ((k : Int) + 1) = .ok c := byteAt_of_getElem? second
  rw [cellAt, if_neg (by omega), if_neg (by omega), byteAt_of_getElem? first, next]
  rfl

theorem cellAt_of_last {k : Nat} {b : UInt8} (found : data[k]? = some b) (last : k + 1 = data.length)
    (address : Int) : cellAt data k address = .ok (.lone b address) := by
  rw [cellAt, if_neg (by omega), if_pos (by omega), byteAt_of_getElem? found]
  rfl

/-- What stands in the row of cells: each is made of the two bytes at its place, or of the byte that is
left over at the end. -/
theorem cells_at {k : Nat} {cell : Cell} (found : (cells start none data)[k]? = some cell) :
    (∃ b c, data[2 * k]? = some b ∧ data[2 * k + 1]? = some c ∧
        cell = .decode b.toNat c.toNat (start + 2 * k)) ∨
      ∃ b, data[2 * k]? = some b ∧ 2 * k + 1 = data.length ∧ cell = .lone b (start + 2 * k) := by
  induction data using List.twoStepInduction generalizing start k with
  | nil => simp [cells] at found
  | singleton b =>
    cases k with
    | zero =>
      cases found
      exact Or.inr ⟨b, rfl, rfl, by simp⟩
    | succ k => simp [cells] at found
  | cons_cons b c rest ih _ =>
    cases k with
    | zero =>
      cases found
      exact Or.inl ⟨b, c, rfl, rfl, by simp⟩
    | succ k =>
      have address : start + 2 + 2 * (k : Int) = start + 2 * ((k + 1 : Nat) : Int) := by omega
      have next : (cells (start + 2) none rest)[k]? = some cell := found
      have later := ih next
      rw [address] at later
      rcases later with ⟨d, e, first, second, same⟩ | ⟨d, first, last, same⟩
      · exact Or.inl ⟨d, e, first, second, same⟩
      · refine Or.inr ⟨d, first, ?_, same⟩
        simp only [List.length_cons]
        omega

theorem length_cells (start : Int) (data : Bytes) :
    (cells start none data).length = (data.length + 1) / 2 := by
  induction data using List.twoStepInduction generalizing start with
  | nil => rfl
  | singleton b => simp
  | cons_cons b c rest ih _ =>
    have later := ih (start + 2)
    simp only [cells_cons_cons, List.length_cons, later]
    omega

/-- The cells of a body take its bytes, in order and each byte once. -/
theorem flatten_rawBytes_cells (start : Int) (data : Bytes) :
    ((cells start none data).mapM Cell.rawBytes).map List.flatten = .ok data := by
  induction data using List.twoStepInduction generalizing start with
  | nil => rfl
  | singleton b =>
    rw [cells_singleton, List.mapM_cons, Cell.rawBytes_lone]
    rfl
  | cons_cons b c rest ih _ =>
    have later := ih (start + 2)
    rw [cells_cons_cons, List.mapM_cons, Cell.rawBytes_decode]
    cases others : (cells (start + 2) none rest).mapM Cell.rawBytes with
    | error fault =>
      rw [others] at later
      cases later
    | ok chunks =>
      rw [others] at later
      have joined : chunks.flatten = rest := Except.ok.inj later
      show Except.ok (([b, c] :: chunks).flatten) = Except.ok (b :: c :: rest)
      rw [List.flatten_cons, joined]
      rfl

/-- A cell lies past the start by the sizes of the cells before it. -/
theorem address_of_cells {k : Nat} {cell : Cell} (found : (cells start none data)[k]? = some cell) :
    cell.address = start + (((cells start none data).take k).map Cell.size).sum := by
  induction data using List.twoStepInduction generalizing start k with
  | nil => simp [cells] at found
  | singleton b =>
    cases k with
    | zero =>
      cases found
      simp [Cell.lone]
    | succ k => simp at found
  | cons_cons b c rest ih _ =>
    cases k with
    | zero =>
      cases found
      simp [Cell.address_decode]
    | succ k =>
      have next : (cells (start + 2) none rest)[k]? = some cell := found
      have later := ih next
      have size := Cell.size_decode b c start
      rw [cells_cons_cons, List.take_succ_cons, List.map_cons, List.sum_cons, size, later]
      omega

theorem address_at {k : Nat} {cell : Cell} (found : (cells start none data)[k]? = some cell) :
    cell.address = start + 2 * k := by
  rcases cells_at found with ⟨b, c, _, _, rfl⟩ | ⟨b, _, _, rfl⟩
  · exact Cell.address_decode b c _
  · rfl

/-- A limit keeps the first cells as they are; one below zero keeps none. -/
theorem cells_limited (start limit : Int) (data : Bytes) :
    cells start (some limit) data = (cells start none data).take limit.toNat := by
  induction data using List.twoStepInduction generalizing start limit with
  | nil => simp [cells]
  | singleton b =>
    by_cases none : limit ≤ 0
    · simp [cells, none]
    · obtain ⟨n, count⟩ : ∃ n, limit.toNat = n + 1 := ⟨limit.toNat - 1, by omega⟩
      simp [cells, none, count]
  | cons_cons b c rest ih _ =>
    by_cases none : limit ≤ 0
    · simp [cells, none]
    · have count : limit.toNat = (limit - 1).toNat + 1 := by omega
      rw [cells_cons_cons, count, List.take_succ_cons, ← ih (start + 2) (limit - 1), cells,
        if_neg (by simpa using none), Option.map_some]

/-- No two cells have the same address, and they are listed in order. -/
theorem cells_sorted (start : Int) (limit : Option Int) (data : Bytes) :
    (cells start limit data).Pairwise fun c later => c.address < later.address := by
  have all : (cells start none data).Pairwise fun c later => c.address < later.address := by
    rw [List.pairwise_iff_getElem]
    intro i j first second before
    rw [address_at (List.getElem?_eq_getElem first), address_at (List.getElem?_eq_getElem second)]
    omega
  cases limit with
  | none => exact all
  | some limit =>
    rw [cells_limited]
    exact all.sublist (List.take_sublist _ _)

/-- Disassembly divides a body into cells. Their bytes, one after the other, are the body, and each cell
lies past the start by the sizes of the cells before it, where it is the cell that is read at its offset.
All cells take two bytes, except that in a body of odd length the last takes one and is neither an
instruction nor code. With a limit the cells are the first ones. -/
theorem cells_partition_body (data : Bytes) (start : Int) :
    ((cells start none data).mapM Cell.rawBytes).map List.flatten = .ok data ∧
      (cells start none data).length = (data.length + 1) / 2 ∧
      (∀ (k : Nat) (cell : Cell), (cells start none data)[k]? = some cell →
        cell.address = start + (((cells start none data).take k).map Cell.size).sum ∧
          cellAt data (2 * k) cell.address = .ok cell ∧
          if k + 1 = (cells start none data).length ∧ data.length % 2 = 1 then
            cell.size = 1 ∧ cell.valid = false ∧ cell.isCode = false
          else cell.size = 2) ∧
      ∀ count : Nat, cells start (some (count : Int)) data = (cells start none data).take count := by
  have length := length_cells start data
  have limited (count : Nat) := cells_limited start count data
  refine ⟨flatten_rawBytes_cells start data, length, fun k cell found => ?_, limited⟩
  have offset : 2 * (k : Int) = ((2 * k : Nat) : Int) := by omega
  refine ⟨address_of_cells found, ?_⟩
  rw [offset]
  rcases cells_at found with ⟨b, c, first, second, rfl⟩ | ⟨b, first, last, rfl⟩
  · have bound : 2 * k + 1 < data.length := (List.getElem?_eq_some_iff.mp second).1
    rw [Cell.address_decode, if_neg (by omega)]
    exact ⟨cellAt_of_pair first second _, Cell.size_decode b c _⟩
  · rw [if_pos (by omega)]
    exact ⟨cellAt_of_last first last _, rfl, rfl, rfl⟩

end Disassembly

end SledeCode
