import Mathlib.Data.Int.Bitwise
import Mathlib.Tactic.LinearCombination
import SledeCode.Proofs.ListedCells

namespace SledeCode

namespace Word

/-- A bit of a number, which is taken as infinite two's complement if it is negative. -/
theorem testBit_eq_decide (n : Int) (i : Nat) : n.testBit i = decide (n / 2 ^ i % 2 = 1) := by
  have positive : (0 : Int) < 2 ^ i := Int.pow_pos (by decide)
  cases n with
  | ofNat m =>
    have cast : (Int.ofNat m) / 2 ^ i % 2 = ((m / 2 ^ i % 2 : Nat) : Int) := by simp
    rw [cast]
    show m.testBit i = _
    rw [Nat.testBit_eq_decide_div_mod_eq]
    simp only [decide_eq_decide]
    omega
  | negSucc m =>
    have quotient : Int.negSucc m / 2 ^ i = -(((m / 2 ^ i : Nat) : Int) + 1) := by
      rw [Int.negSucc_ediv m positive]
      show -((m : Int) / 2 ^ i + 1) = _
      simp
    rw [quotient]
    show (!m.testBit i) = _
    rw [Nat.testBit_eq_decide_div_mod_eq, ← decide_not]
    simp only [decide_eq_decide]
    omega

/-- A number that is cut to a width and has another one above it shows its own bits below the
width, and from there on the bits of the other. -/
theorem testBit_cut_add (n above : Int) (width i : Nat) :
    (n % 2 ^ width + 2 ^ width * above).testBit i =
      if i < width then n.testBit i else above.testBit (i - width) := by
  have positive (k : Nat) : (0 : Int) < 2 ^ k := Int.pow_pos (by decide)
  simp only [testBit_eq_decide]
  split
  · rename_i inside
    -- What is cut off and what stands above are multiples of the double of `2 ^ i`.
    have power : (2 : Int) ^ width = 2 ^ i * (2 * 2 ^ (width - i - 1)) := by
      rw [← Int.pow_succ', ← Int.pow_add]
      congr 1
      omega
    have whole : n % 2 ^ width + 2 ^ width * above =
        n + 2 ^ i * (2 * (2 ^ (width - i - 1) * (above - n / 2 ^ width))) := by
      have division := Int.emod_add_mul_ediv n (2 ^ width)
      linear_combination division + (above - n / 2 ^ width) * power
    rw [whole, Int.add_mul_ediv_left _ _ (positive i).ne', Int.add_mul_emod_self_left]
  · rename_i outside
    have power : (2 : Int) ^ i = 2 ^ width * 2 ^ (i - width) := by
      rw [← Int.pow_add]
      congr 1
      omega
    have low : n % 2 ^ width / 2 ^ width = 0 :=
      Int.ediv_eq_zero_of_lt (Int.emod_nonneg n (positive width).ne') (Int.emod_lt_of_pos n (positive width))
    rw [power, ← Int.ediv_ediv_of_nonneg (positive width).le, Int.add_mul_ediv_left _ _ (positive width).ne', low,
      Int.zero_add]

/-- Numbers laid one above the other from the lowest bit up, each cut to its width. -/
def stack : List (Nat × Int) → Int
  | [] => 0
  | (width, n) :: above => n % 2 ^ width + 2 ^ width * stack above

/-- The bits of such numbers, each counted from its own lowest bit. -/
def bitAt : List (Nat × Int) → Nat → Bool
  | [], _ => false
  | (width, n) :: above, i => if i < width then n.testBit i else bitAt above (i - width)

theorem testBit_stack (parts : List (Nat × Int)) (i : Nat) : (stack parts).testBit i = bitAt parts i := by
  induction parts generalizing i with
  | nil => exact Nat.zero_testBit i
  | cons part above ih => rw [stack, testBit_cut_add, ih, bitAt]

theorem ofNibbles_eq_stack (n0 n1 n2 n3 : Int) :
    ofNibbles n0 n1 n2 n3 = stack [(4, n0), (4, n1), (4, n2), (4, n3)] := by
  simp only [ofNibbles, stack]
  omega

theorem ofNibblesByte_eq_stack (n0 n1 v : Int) : ofNibblesByte n0 n1 v = stack [(4, n0), (4, n1), (8, v)] := by
  simp only [ofNibblesByte, stack]
  omega

theorem ofNibbleAddress_eq_stack (n0 a : Int) : ofNibbleAddress n0 a = stack [(4, n0), (12, a)] := by
  simp only [ofNibbleAddress, stack]
  omega

/-- A word of sixteen bits that holds the parts, and of which the two bytes are decoded to a cell
whose word is as `fields` says. -/
structure IsPacked (w : Int) (parts : List (Nat × Int)) (fields : Int → Prop) : Prop where
  lower : 0 ≤ w
  upper : w < 65536
  bits : ∀ i, w.testBit i = bitAt parts i
  decoded : ∃ opcode param : UInt8, bytes w = [opcode, param] ∧
    ∀ address, fields (Cell.decode opcode.toNat param.toNat address).word

theorem isPacked_of_fields {w : Int} {parts : List (Nat × Int)} {fields : Int → Prop} (lower : 0 ≤ w)
    (upper : w < 65536) (same : w = stack parts) (here : fields w) : IsPacked w parts fields where
  lower := lower
  upper := upper
  bits := by
    intro i
    rw [same, testBit_stack]
  decoded := by
    refine ⟨lowByte w, lowByte (w / 256), rfl, fun address => ?_⟩
    rw [Cell.word_decode, ← (bytes_eq_pair_iff lower upper).mp rfl]
    exact here

theorem ofBytes_range (opcode param : UInt8) : 0 ≤ ofBytes opcode param ∧ ofBytes opcode param < 65536 := by
  have low := opcode.toNat_lt
  have high := param.toNat_lt
  rw [ofBytes]
  omega

/-- The fields of a word cover all its bits, in each of the three ways to divide it. -/
theorem pack_of_fields {w : Int} (lower : 0 ≤ w) (upper : w < 65536) :
    ofNibbles (operationClass w) (operation w) (argument1 w) (argument2 w) = w ∧
      ofNibblesByte (operationClass w) (operation w) (value w) = w ∧
      ofNibbleAddress (operationClass w) (addressField w) = w := by
  simp only [ofNibbles, ofNibblesByte, ofNibbleAddress, operationClass, operation, argument1, argument2, value,
    addressField]
  omega

end Word

namespace Cell

/-- Only the low byte of each number is decoded. -/
theorem decode_lowByte (opcode param address : Int) :
    decode opcode param address = decode (Word.lowByte opcode).toNat (Word.lowByte param).toNat address := by
  simp only [decode, Word.lowByte_toNat]

theorem decode_emod (opcode param address : Int) :
    decode opcode param address = decode (opcode % 256) (param % 256) address := by
  rw [decode_lowByte, Word.toNat_lowByte, Word.toNat_lowByte]

end Cell

namespace Word

/-- Packing and reading fields undo each other, for any integers. The word that is packed holds the
low bits of the numbers, and their fields are read back from its bytes. What is decoded from two
numbers depends on their low bytes only, and its fields, packed in any of the three ways, give its
word again, the bytes of which are the bytes of the cell. -/
theorem packing_inverts_decoding (n0 n1 n2 n3 v a opcode param address : Int) :
    IsPacked (ofNibbles n0 n1 n2 n3) [(4, n0), (4, n1), (4, n2), (4, n3)] (fun w =>
        operationClass w = n0 % 16 ∧ operation w = n1 % 16 ∧ argument1 w = n2 % 16 ∧ argument2 w = n3 % 16) ∧
      IsPacked (ofNibblesByte n0 n1 v) [(4, n0), (4, n1), (8, v)] (fun w =>
        operationClass w = n0 % 16 ∧ operation w = n1 % 16 ∧ value w = v % 256) ∧
      IsPacked (ofNibbleAddress n0 a) [(4, n0), (12, a)] (fun w =>
        operationClass w = n0 % 16 ∧ addressField w = a % 4096) ∧
      Cell.decode opcode param address = Cell.decode (opcode % 256) (param % 256) address ∧
      let c := Cell.decode opcode param address
      ofNibbles (operationClass c.word) (operation c.word) (argument1 c.word) (argument2 c.word) = c.word ∧
        ofNibblesByte (operationClass c.word) (operation c.word) (value c.word) = c.word ∧
        ofNibbleAddress (operationClass c.word) (addressField c.word) = c.word ∧
        c.rawBytes = .ok (bytes c.word) := by
  refine ⟨?_, ?_, ?_, Cell.decode_emod opcode param address, ?_⟩
  · refine isPacked_of_fields ?_ ?_ (ofNibbles_eq_stack n0 n1 n2 n3) ?_ <;>
      simp only [ofNibbles, operationClass, operation, argument1, argument2] <;> omega
  · refine isPacked_of_fields ?_ ?_ (ofNibblesByte_eq_stack n0 n1 v) ?_ <;>
      simp only [ofNibblesByte, operationClass, operation, value] <;> omega
  · refine isPacked_of_fields ?_ ?_ (ofNibbleAddress_eq_stack n0 a) ?_ <;>
      simp only [ofNibbleAddress, operationClass, addressField] <;> omega
  · intro c
    obtain ⟨lower, upper⟩ := ofBytes_range (lowByte opcode) (lowByte param)
    have bytewise : c = Cell.decode (lowByte opcode).toNat (lowByte param).toNat address :=
      Cell.decode_lowByte opcode param address
    rw [bytewise, Cell.word_decode, Cell.rawBytes_decode, (bytes_eq_pair_iff lower upper).mpr rfl]
    obtain ⟨nibbles, byte, target⟩ := pack_of_fields lower upper
    exact ⟨nibbles, byte, target, rfl⟩

example : ofNibbles (-1) 18 (-16) 5 = 0x502F ∧ bytes 0x502F = [0x2F, 0x50] := by decide

end Word

end SledeCode
