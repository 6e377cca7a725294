import SledeCode.Disassembly
import SledeCode.Proofs.CodeCell
import SledeCode.Proofs.NumeralReading
import SledeCode.Proofs.StepsInOrder

namespace SledeCode

namespace Text

/-- No character comes before the space: such a text ends no line and starts no styling sequence. -/
def IsControlFree (t : Text) : Prop := ∀ c ∈ t, ' ' ≤ c

namespace IsControlFree

theorem cons {c : Char} {t : Text} (first : ' ' ≤ c) (rest : IsControlFree t) : IsControlFree (c :: t) :=
  List.forall_mem_cons.mpr ⟨first, rest⟩

theorem append {t u : Text} (front : IsControlFree t) (back : IsControlFree u) : IsControlFree (t ++ u) :=
  List.forall_mem_append.mpr ⟨front, back⟩

theorem of_subset {t u : Text} (free : IsControlFree t) (part : u ⊆ t) : IsControlFree u :=
  fun c member => free c (part member)

theorem not_mem {t : Text} (free : IsControlFree t) {c : Char} (control : c < ' ') : c ∉ t :=
  fun member => Char.not_le.mpr control (free c member)

theorem commaList {ts : List Text} (free : ∀ t ∈ ts, IsControlFree t) : IsControlFree (commaList ts) := by
  intro c member
  rcases mem_commaList member with ⟨t, listed, inside⟩ | rfl | rfl
  · exact free t listed c inside
  · decide
  · decide

end IsControlFree

theorem isControlFree_of_all {t : Text} (all : t.all (' ' ≤ ·) = true) : IsControlFree t :=
  fun c member => of_decide_eq_true (List.all_eq_true.mp all c member)

theorem isControlFree_decimal (n : Nat) : IsControlFree (decimal n) :=
  forall_mem_toDigits (by decide) (by decide) n

theorem isControlFree_hexUpper (n : Nat) : IsControlFree (hexUpper n) := forall_mem_hexUpper (by decide) n

theorem isControlFree_hexByte (b : UInt8) : IsControlFree (hexByte b) := forall_mem_zeroPad (by decide) 2 b.toNat

theorem isControlFree_hexField (width : Nat) (n : Int) : IsControlFree (hexField width n) := by
  unfold hexField signed
  split
  · exact .cons (by decide) (forall_mem_zeroPad (by decide) _ _)
  · exact forall_mem_zeroPad (by decide) _ _

end Text

open Text

theorem Instruction.isControlFree_text (i : Instruction) : IsControlFree i.text := by
  have name : IsControlFree i.mnemonic.name := by
    have listed : ∀ m ∈ Mnemonic.all, m.name.all (' ' ≤ ·) = true := by decide
    exact isControlFree_of_all (listed i.mnemonic (List.mem_of_find?_eq_some (Mnemonic.ofName?_name i.mnemonic)))
  have register (r : Register) : IsControlFree (registerText r) := .cons (by decide) (isControlFree_decimal _)
  have operands : ∀ t ∈ i.operands, IsControlFree t := by
    cases i with
    | plain op => simp [Instruction.operands]
    | setValue dest value => simp [Instruction.operands, register, isControlFree_decimal]
    | address op a =>
      have label : IsControlFree (targetLabel op a) :=
        .cons (by cases op <;> decide) (isControlFree_hexField 3 _)
      simp [Instruction.operands, label]
    | setRegister | memory | stream | alu | compare => simp [Instruction.operands, register]
  unfold Instruction.text
  split
  · exact name
  · exact name.append (.cons (by decide) (.commaList operands))

namespace Cell

/-- A cell that says nothing with control characters, which goes for every cell that is decoded. -/
structure IsControlFree (c : Cell) : Prop where
  text : c.text.IsControlFree
  error : c.error.IsControlFree

theorem isControlFree_refusal (opcode param : UInt8) : (refusal opcode param).IsControlFree := by
  have field := isControlFree_hexField 4 (Word.ofBytes opcode param)
  have number := isControlFree_hexUpper (opcode.toNat % 16)
  have operation := isControlFree_decimal (opcode.toNat / 16)
  have fixed {t : Text} (all : t.all (' ' ≤ ·) = true) : t.IsControlFree := isControlFree_of_all all
  unfold refusal
  dsimp only
  split
  rotate_left 3
  · exact (((fixed rfl).append operation).append (fixed rfl)).append number
  all_goals exact ((((fixed rfl).append field).append (fixed rfl)).append number).append (fixed rfl)

theorem isControlFree_decode (opcode param address : Int) : (decode opcode param address).IsControlFree := by
  unfold decode
  dsimp only
  split
  · exact ⟨Instruction.isControlFree_text _, isControlFree_of_all rfl⟩
  · exact ⟨isControlFree_of_all rfl, isControlFree_refusal _ _⟩

theorem isControlFree_lone (opcode : UInt8) (address : Int) : (lone opcode address).IsControlFree :=
  ⟨isControlFree_of_all rfl, isControlFree_of_all rfl⟩

variable {c : Cell}

theorem IsControlFree.mnemonic (free : c.IsControlFree) : c.mnemonic.IsControlFree := by
  unfold Cell.mnemonic
  split
  · exact free.text.of_subset (List.takeWhile_subset _)
  · exact isControlFree_of_all rfl

theorem IsControlFree.targetLabel (free : c.IsControlFree) {label : Text}
    (found : c.targetLabel? = .ok (some label)) : label.IsControlFree := by
  unfold Cell.targetLabel? at found
  split at found
  · cases found
  · rename_i operand behind
    cases found
    exact free.text.of_subset (subset_of_after? behind)
  · cases found

theorem IsControlFree.dataText (free : c.IsControlFree) {line : Text} (done : c.dataText = .ok line) :
    line.IsControlFree := by
  have bytes (bs : Bytes) : ∀ t ∈ bs.map byteOperand, t.IsControlFree := by
    intro t listed
    obtain ⟨b, _, rfl⟩ := List.mem_map.mp listed
    exact .cons (by decide) (.cons (by decide) (isControlFree_hexByte b))
  unfold Cell.dataText at done
  cases raw : c.rawBytes with
  | error fault =>
    rw [raw] at done
    cases done
  | ok bs =>
    rw [raw] at done
    cases done
    have word : dataWord.IsControlFree := isControlFree_of_all rfl
    refine ((word.append (.cons (by decide) (.commaList (bytes bs)))).append (isControlFree_of_all rfl)).append ?_
    split
    · have quoted : (inQuotes c.text).IsControlFree :=
        .append (.cons (by decide) free.text) (isControlFree_of_all rfl)
      exact .append (isControlFree_of_all rfl) quoted
    · exact free.error

theorem IsControlFree.sourceText (free : c.IsControlFree) {literal : Bool} {line : Text}
    (done : c.sourceText literal = .ok line) : line.IsControlFree := by
  unfold Cell.sourceText at done
  split at done
  · exact free.dataText done
  · split at done
    · cases done
      exact (free.mnemonic.append (isControlFree_of_all (by decide))).append (isControlFree_hexField 3 _)
    · cases done
      exact free.text

theorem isControlFree_label (c : Cell) (address : Int) : (c.label address).IsControlFree := by
  refine .cons ?_ (isControlFree_hexField 3 address)
  split <;> decide

end Cell

namespace Disassembly

theorem isControlFree_cells (address : Int) (limit : Option Int) (body : Bytes) :
    ∀ c ∈ cells address limit body, c.IsControlFree := by
  induction body using List.twoStepInduction generalizing address limit with
  | nil => simp [cells]
  | singleton b =>
    rw [cells]
    split
    · simp
    · simpa using Cell.isControlFree_lone b address
  | cons_cons b c rest ih _ =>
    rw [cells]
    split
    · simp
    · exact List.forall_mem_cons.mpr ⟨Cell.isControlFree_decode _ _ _, ih _ _⟩

theorem isControlFree_references {starts : Int → Bool} {cs : List Cell} {refs : List (Int × Text)}
    (free : ∀ c ∈ cs, c.IsControlFree) (done : references starts cs = .ok refs) :
    ∀ r ∈ refs, r.2.IsControlFree := by
  induction cs generalizing refs with
  | nil =>
    cases done
    simp
  | cons c rest ih =>
    rw [List.forall_mem_cons] at free
    rw [references] at done
    split at done
    · split at done
      · obtain ⟨label, labelled, done⟩ := bind_eq_ok_iff.mp done
        obtain ⟨others, later, same⟩ := bind_eq_ok_iff.mp done
        cases same
        refine List.forall_mem_cons.mpr ⟨?_, ih free.2 later⟩
        cases label with
        | none => exact isControlFree_of_all rfl
        | some label => exact free.1.targetLabel labelled
      · exact ih free.2 done
    · exact ih free.2 done

theorem isControlFree_cellLines {starts : Int → Bool} {refs : List (Int × Text)} {c : Cell} {lines : List Text}
    (free : c.IsControlFree) (named : ∀ r ∈ refs, r.2.IsControlFree)
    (done : cellLines starts refs c = .ok lines) : ∀ line ∈ lines, line.IsControlFree := by
  obtain ⟨source, sourced, same⟩ := bind_eq_ok_iff.mp done
  cases same
  have labels : ∀ name ∈ labelsOf refs c.address, name.IsControlFree := by
    intro name member
    obtain ⟨r, kept, rfl⟩ := List.mem_map.mp (List.mem_eraseDups.mp member)
    exact named r (List.mem_of_mem_filter kept)
  intro line member
  rcases List.mem_append.mp member with label | last
  · obtain ⟨name, listed, rfl⟩ := List.mem_map.mp label
    refine Text.IsControlFree.append ?_ (isControlFree_of_all rfl)
    rcases List.mem_cons.mp listed with rfl | other
    · exact c.isControlFree_label c.address
    · exact labels name (List.mem_of_mem_filter other)
  · rw [List.mem_singleton.mp last]
    exact free.sourceText sourced

theorem isControlFree_linesOf {starts : Int → Bool} {refs : List (Int × Text)} {cs : List Cell}
    {lines : List Text} (free : ∀ c ∈ cs, c.IsControlFree) (named : ∀ r ∈ refs, r.2.IsControlFree)
    (done : linesOf starts refs cs = .ok lines) : ∀ line ∈ lines, line.IsControlFree := by
  induction cs generalizing lines with
  | nil =>
    cases done
    simp
  | cons c rest ih =>
    rw [List.forall_mem_cons] at free
    obtain ⟨first, block, done⟩ := bind_eq_ok_iff.mp done
    obtain ⟨others, later, same⟩ := bind_eq_ok_iff.mp done
    cases same
    exact List.forall_mem_append.mpr ⟨isControlFree_cellLines free.1 named block, ih free.2 later⟩

/-- The lines of a listing stay lines wherever they are printed. -/
theorem isControlFree_sourceLines {cs : List Cell} {lines : List Text} (free : ∀ c ∈ cs, c.IsControlFree)
    (done : sourceLines cs = .ok lines) : ∀ line ∈ lines, line.IsControlFree := by
  obtain ⟨refs, collected, done⟩ := bind_eq_ok_iff.mp done
  exact isControlFree_linesOf free (isControlFree_references free collected) done

end Disassembly

end SledeCode
