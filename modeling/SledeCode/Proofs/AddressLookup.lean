import Mathlib.Algebra.BigOperators.Group.List.Basic
import Mathlib.Algebra.Ring.Int.Defs
import SledeCode.Program

namespace SledeCode

/-- Whether the byte at an address is one of those that the line has given. -/
def Entry.holds (address : Int) (e : Entry) : Bool :=
  e.address ≤ address && address < e.address + e.size

theorem Entry.holds_iff {a : Int} {e : Entry} : e.holds a = true ↔ e.address ≤ a ∧ a < e.address + e.size := by
  simp only [holds, Bool.and_eq_true, decide_eq_true_eq]

namespace Program

theorem covers_iff {a : Int} {e : Entry} : covers e a = true ↔ e.address ≤ a ∧ a < e.address + max e.size 1 := by
  simp only [covers, Bool.and_eq_true, decide_eq_true_eq]

/-- The entries lie one behind the other from address zero on, and together they take up the body. -/
structure IsContiguous (p : Program) : Prop where
  address : ∀ (k : Nat) (e : Entry), p.entries[k]? = some e →
    e.address = ((p.entries.take k).map Entry.size).sum
  size : ∀ e ∈ p.entries, 0 ≤ e.size
  whole : (p.entries.map Entry.size).sum = p.body.length

/-- Entries that lie one behind the other from one address up to another. -/
inductive Row : Int → List Entry → Int → Prop
  | nil (a : Int) : Row a [] a
  | cons {e : Entry} {rest : List Entry} {stop : Int} :
      0 ≤ e.size → Row (e.address + e.size) rest stop → Row e.address (e :: rest) stop

theorem row_of_addresses {start : Int} {entries : List Entry}
    (address : ∀ (k : Nat) (e : Entry), entries[k]? = some e →
      e.address = start + ((entries.take k).map Entry.size).sum)
    (size : ∀ e ∈ entries, 0 ≤ e.size) : Row start entries (start + (entries.map Entry.size).sum) := by
  induction entries generalizing start with
  | nil =>
    rw [List.map_nil, List.sum_nil, Int.add_zero]
    exact .nil start
  | cons e rest ih =>
    have first : start = e.address := by
      have here := address 0 e rfl
      rw [List.take_zero, List.map_nil, List.sum_nil, Int.add_zero] at here
      exact here.symm
    subst first
    obtain ⟨atLeast, others⟩ := List.forall_mem_cons.mp size
    rw [List.map_cons, List.sum_cons, ← Int.add_assoc]
    refine .cons atLeast (ih (fun k later found => ?_) others)
    have next := address (k + 1) later found
    rwa [List.take_succ_cons, List.map_cons, List.sum_cons, ← Int.add_assoc] at next

theorem IsContiguous.row {p : Program} (contiguous : p.IsContiguous) : Row 0 p.entries p.body.length := by
  have row : Row 0 p.entries (0 + (p.entries.map Entry.size).sum) :=
    row_of_addresses (fun k e found => by rw [Int.zero_add, contiguous.address k e found]) contiguous.size
  rwa [Int.zero_add, contiguous.whole] at row

namespace Row

variable {start stop : Int} {entries : List Entry}

theorem start_le_stop (row : Row start entries stop) : start ≤ stop := by
  induction row with
  | nil => exact Int.le_refl _
  | cons atLeast _ ih => omega

theorem bounds (row : Row start entries stop) : ∀ e ∈ entries, start ≤ e.address ∧ e.address + e.size ≤ stop := by
  induction row with
  | nil => simp
  | @cons first rest stop atLeast later ih =>
    have order := later.start_le_stop
    refine List.forall_mem_cons.mpr ⟨⟨Int.le_refl _, order⟩, fun e member => ?_⟩
    have inside := ih e member
    omega

theorem filter_holds_of_outside (row : Row start entries stop) {a : Int} (outside : a < start ∨ stop ≤ a) :
    entries.filter (Entry.holds a) = [] := by
  refine List.filter_eq_nil_iff.mpr (fun e member holds => ?_)
  have within := row.bounds e member
  have here := Entry.holds_iff.mp holds
  omega

/-- Every byte of a row belongs to exactly one of its entries. -/
theorem filter_holds_of_inside (row : Row start entries stop) {a : Int} (after : start ≤ a) (before : a < stop) :
    ∃ e, entries.filter (Entry.holds a) = [e] := by
  induction row with
  | nil => omega
  | @cons first rest stop atLeast later ih =>
    by_cases here : a < first.address + first.size
    · refine ⟨first, ?_⟩
      rw [List.filter_cons_of_pos (Entry.holds_iff.mpr ⟨after, here⟩), later.filter_holds_of_outside (Or.inl here)]
    · have passed : ¬ first.holds a = true := fun holds => here (Entry.holds_iff.mp holds).2
      obtain ⟨e, only⟩ := ih (Int.not_lt.mp here) before
      exact ⟨e, by rw [List.filter_cons_of_neg passed, only]⟩

/-- Where no entry is empty at the address, the scan sees the bytes of the entries and nothing else. -/
theorem find?_covers_of_nonempty (row : Row start entries stop) {a : Int}
    (nonempty : ∀ e ∈ entries, e.size = 0 → e.address ≠ a) :
    entries.find? (fun e => covers e a) = (entries.filter (Entry.holds a)).head? := by
  rw [List.head?_filter]
  induction row with
  | nil => rfl
  | @cons first rest stop atLeast later ih =>
    obtain ⟨here, others⟩ := List.forall_mem_cons.mp nonempty
    have same : covers first a = first.holds a := by
      rw [Bool.eq_iff_iff, covers_iff, Entry.holds_iff]
      omega
    rw [List.find?_cons, List.find?_cons, same, ih others]

/-- An empty entry at the address hides the entry that the byte there belongs to, which comes later. -/
theorem find?_covers_of_empty (row : Row start entries stop) {a : Int} {e : Entry} (member : e ∈ entries)
    (empty : e.size = 0) (here : e.address = a) :
    ∃ found, entries.find? (fun e => covers e a) = some found ∧ found.size = 0 ∧ found.address = a := by
  induction row with
  | nil => simp at member
  | @cons first rest stop atLeast later ih =>
    by_cases covered : covers first a = true
    · refine ⟨first, List.find?_cons_of_pos covered, ?_⟩
      have range := covers_iff.mp covered
      rcases List.mem_cons.mp member with rfl | behind
      · exact ⟨empty, here⟩
      · have reached := (later.bounds e behind).1
        omega
    · rcases List.mem_cons.mp member with rfl | behind
      · exact absurd (covers_iff.mpr (by omega)) covered
      · obtain ⟨found, answer, kept⟩ := ih behind
        exact ⟨found, (List.find?_cons_of_neg (p := fun e => covers e a) covered).trans answer, kept⟩

end Row

/-- In a program whose entries follow each other, looking an address up finds the one entry that
gave the byte there, and nothing outside the body, exactly if no entry without bytes stands at that
address. -/
theorem entryAt?_finds_emitter_iff {p : Program} (contiguous : p.IsContiguous) (a : Int) :
    ((0 ≤ a ∧ a < p.body.length → ∃ e, p.entries.filter (Entry.holds a) = [e] ∧ p.entryAt? a = some e) ∧
      (¬ (0 ≤ a ∧ a < p.body.length) → p.entryAt? a = none)) ↔
    ∀ e ∈ p.entries, e.size = 0 → e.address ≠ a := by
  have row := contiguous.row
  constructor
  · rintro ⟨inside, outside⟩ e member empty here
    obtain ⟨found, first, foundEmpty, _⟩ := row.find?_covers_of_empty member empty here
    by_cases range : 0 ≤ a ∧ a < p.body.length
    · obtain ⟨emitter, only, answer⟩ := inside range
      have same : found = emitter := Option.some.inj (first.symm.trans answer)
      have holds : emitter.holds a = true := List.of_mem_filter (only ▸ List.mem_singleton_self emitter)
      have bytes := Entry.holds_iff.mp holds
      rw [same] at foundEmpty
      omega
    · cases first.symm.trans (outside range)
  · intro nonempty
    have answer : p.entryAt? a = (p.entries.filter (Entry.holds a)).head? := row.find?_covers_of_nonempty nonempty
    refine ⟨fun range => ?_, fun range => ?_⟩
    · obtain ⟨e, only⟩ := row.filter_holds_of_inside range.1 range.2
      exact ⟨e, only, by rw [answer, only, List.head?_cons]⟩
    · rw [answer, row.filter_holds_of_outside (by omega), List.head?_nil]

/-- An empty line before the code does no harm to the addresses behind it. -/
theorem entryAt?_finds_emitter_past_empty : ∃ p : Program,
    (Assembly.assemble .standard ".DATA\nNOPE\n.DATA 1, 2, 3".toList "<input>".toList).outcome = .ok p ∧
      p.IsContiguous ∧ p.body.length = 5 ∧ (∃ e ∈ p.entries, e.size = 0) ∧
      (∃ e, p.entries.filter (Entry.holds 3) = [e] ∧ p.entryAt? 3 = some e ∧ e.line = 3) ∧
      p.entryAt? 5 = none := by
  let p : Program := ⟨magic ++ [0x0C, 0, 1, 2, 3],
    [⟨0, 1, ".DATA".toList, 0⟩, ⟨0, 2, "NOPE".toList, 2⟩, ⟨2, 3, ".DATA 1, 2, 3".toList, 3⟩], ⟨[]⟩⟩
  have done : (Assembly.assemble .standard ".DATA\nNOPE\n.DATA 1, 2, 3".toList "<input>".toList).outcome =
      .ok p := by
    decide +kernel
  have contiguous : p.IsContiguous := by
    refine ⟨?_, by decide, by decide⟩
    rintro (_ | _ | _ | k) e ⟨⟩ <;> decide
  obtain ⟨inside, _⟩ := (entryAt?_finds_emitter_iff contiguous 3).mpr (by decide)
  obtain ⟨_, outside⟩ := (entryAt?_finds_emitter_iff contiguous 5).mpr (by decide)
  obtain ⟨e, only, answer⟩ := inside (by decide)
  have line : [e].map Entry.line = [3] := only ▸ by decide
  exact ⟨p, done, contiguous, by decide, by decide, ⟨e, only, answer, List.head_eq_of_cons_eq line⟩,
    outside (by decide)⟩

/-- The byte at address zero was given by the second line, and looking it up finds the first one,
which has none. Past the end of the body there should be nothing to find. -/
theorem entryAt?_finds_empty_line : ∃ p q : Program,
    (Assembly.assemble .standard ".DATA\nSTOPP".toList "<input>".toList).outcome = .ok p ∧ p.IsContiguous ∧
      0 < p.body.length ∧ (p.entries.filter (Entry.holds 0)).map Entry.line = [2] ∧
      (p.entryAt? 0).map Entry.line = some 1 ∧
    (Assembly.assemble .standard "STOPP\n.DATA".toList "<input>".toList).outcome = .ok q ∧ q.IsContiguous ∧
      q.body.length = 2 ∧ (q.entryAt? 2).map Entry.line = some 2 := by
  have first : (Assembly.assemble .standard ".DATA\nSTOPP".toList "<input>".toList).outcome = .ok
      ⟨magic ++ [0, 0], [⟨0, 1, ".DATA".toList, 0⟩, ⟨0, 2, "STOPP".toList, 2⟩], ⟨[]⟩⟩ := by
    decide +kernel
  have second : (Assembly.assemble .standard "STOPP\n.DATA".toList "<input>".toList).outcome = .ok
      ⟨magic ++ [0, 0], [⟨0, 1, "STOPP".toList, 2⟩, ⟨2, 2, ".DATA".toList, 0⟩], ⟨[]⟩⟩ := by
    decide +kernel
  refine ⟨_, _, first, ⟨?_, by decide, by decide⟩, by decide, by decide, by decide,
    second, ⟨?_, by decide, by decide⟩, by decide, by decide⟩
  · rintro (_ | _ | k) e ⟨⟩ <;> decide
  · rintro (_ | _ | k) e ⟨⟩ <;> decide

end Program

end SledeCode
