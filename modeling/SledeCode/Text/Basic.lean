namespace SledeCode

/-- Source code, listings and messages, one element per code point. -/
abbrev Text := List Char

/-- Machine code and file contents. -/
abbrev Bytes := List UInt8

namespace Text

/-- The mark that opens and closes a string. -/
def apostrophe : Char := '\x27'

/-- The characters that count for nothing at either end of a line or an operand. -/
def isBlank (c : Char) : Bool :=
  let n := c.toNat
  (0x09 ≤ n && n ≤ 0x0D) || (0x1C ≤ n && n ≤ 0x20) || n == 0x85 || n == 0xA0 || n == 0x1680 ||
    (0x2000 ≤ n && n ≤ 0x200A) || n == 0x2028 || n == 0x2029 || n == 0x202F || n == 0x205F ||
    n == 0x3000

def trimLeft (t : Text) : Text := t.dropWhile isBlank

def trimRight (t : Text) : Text := (t.reverse.dropWhile isBlank).reverse

/-- The text without the blanks at its two ends. -/
def trim (t : Text) : Text := trimRight (trimLeft t)

/-- The part before the first `stop`, or everything if there is none. -/
def upTo (stop : Char) (t : Text) : Text := t.takeWhile (· != stop)

/-- The part after the first `stop`, if there is one. -/
def after? (stop : Char) (t : Text) : Option Text :=
  match t.dropWhile (· != stop) with
  | [] => none
  | _ :: rest => some rest

/-- Lines are separated by a line feed alone, so there is always at least one. -/
def lines (t : Text) : List Text := t.splitOn '\n'

theorem lines_append_newline (t rest : Text) : lines (t ++ '\n' :: rest) = lines t ++ lines rest := by
  rw [lines, List.splitOn_append_cons_self]
  rfl

/-- The lines with a line feed between each two. -/
def unlines (ls : List Text) : Text := List.intercalate ['\n'] ls

/-- The texts with a comma and a space between each two. -/
def commaList (ts : List Text) : Text := List.intercalate [',', ' '] ts

/-- The text between single quotes, as messages show names and operands. -/
def inQuotes (t : Text) : Text := apostrophe :: t ++ [apostrophe]

def padLeft (width : Nat) (t : Text) : Text := List.replicate (width - t.length) ' ' ++ t

def padRight (width : Nat) (t : Text) : Text := t ++ List.replicate (width - t.length) ' '

/-- Lower case for the letters A to Z; every other character stays. -/
def lowerAscii (t : Text) : Text := t.map Char.toLower

/-- Code point order, the shorter of two texts first when one begins the other. -/
def precedes : Text → Text → Bool
  | [], _ => true
  | _ :: _, [] => false
  | a :: as, b :: bs => a < b || (a == b && precedes as bs)

end Text

def total (ns : List Nat) : Nat := ns.foldr (· + ·) 0

@[simp] theorem total_nil : total [] = 0 := rfl

@[simp] theorem total_cons (n : Nat) (ns : List Nat) : total (n :: ns) = n + total ns := rfl

theorem total_append (ns ms : List Nat) : total (ns ++ ms) = total ns + total ms := List.sum_append_nat

theorem total_map_eq {α : Type} {f : α → Nat} {n : Nat} {xs : List α} (each : ∀ x ∈ xs, f x = n) :
    total (xs.map f) = n * xs.length := by
  rw [List.map_eq_replicate_iff.mpr each]
  calc total (List.replicate xs.length n) = xs.length * n := List.sum_replicate_nat
    _ = n * xs.length := Nat.mul_comm _ _

theorem total_map_le {α : Type} {f g : α → Nat} {xs : List α} (below : ∀ x ∈ xs, g x ≤ f x) :
    total (xs.map g) ≤ total (xs.map f) := by
  induction xs with
  | nil => exact Nat.le_refl 0
  | cons x rest ih =>
    obtain ⟨here, later⟩ := List.forall_mem_cons.mp below
    exact Nat.add_le_add here (ih later)

/-- Sums of numbers none of which is below its partner agree only if all the numbers do. -/
theorem total_map_eq_iff {α : Type} {f g : α → Nat} {xs : List α} (below : ∀ x ∈ xs, g x ≤ f x) :
    total (xs.map f) = total (xs.map g) ↔ ∀ x ∈ xs, f x = g x := by
  induction xs with
  | nil => simp
  | cons x rest ih =>
    obtain ⟨here, later⟩ := List.forall_mem_cons.mp below
    have others := total_map_le later
    rw [List.forall_mem_cons, ← ih later]
    simp only [List.map_cons, total_cons]
    omega

/-- Where each of the numbers is at least one, their sum is at least how many they are. -/
theorem length_le_total_map {α : Type} {f : α → Nat} {xs : List α} (positive : ∀ x ∈ xs, 1 ≤ f x) :
    xs.length ≤ total (xs.map f) := by
  have ones : total (xs.map fun _ => 1) = 1 * xs.length := total_map_eq (fun _ _ => rfl)
  have less : total (xs.map fun _ => 1) ≤ total (xs.map f) := total_map_le positive
  omega

/-- The elements from index `lo` up to `hi`. A negative index counts from the
end, and an index outside the list means its nearest end. -/
def window {α : Type} (xs : List α) (lo hi : Int) : List α :=
  let place (i : Int) : Nat := min (if i < 0 then i + xs.length else i).toNat xs.length
  (xs.take (place hi)).drop (place lo)

end SledeCode
