import SledeCode.Emission
import SledeCode.Proofs.LineShape

namespace SledeCode

theorem Text.not_mem_upTo (stop : Char) (t : Text) : stop ∉ Text.upTo stop t := by
  intro member
  have before := List.mem_takeWhile_imp member
  simp at before

/-- What remains of a line starts with its first character that is not blank. -/
theorem Line.isBlank_of_code {c : Char} {raw rest : Text} (remains : Line.code raw = c :: rest) :
    Text.isBlank c = false := by
  unfold Line.code Text.upTo at remains
  cases whole : Text.trim raw with
  | nil =>
    rw [whole] at remains
    cases remains
  | cons d tail =>
    rw [whole, List.takeWhile_cons] at remains
    split at remains
    · rw [← (List.cons.inj remains).1]
      exact Text.isBlank_of_trim whole
    · cases remains

namespace Statement

theorem isOperand_of_mem_splitArgs {t operand : Text} (uncommented : Line.commentMark ∉ t)
    (member : operand ∈ splitArgs t) : IsOperand operand := by
  obtain ⟨listed, nonempty⟩ := List.mem_filter.mp member
  obtain ⟨piece, split, rfl⟩ := List.mem_map.mp listed
  -- A character of the operand is one of the text, and neither a space nor a comma.
  have origin {c : Char} (inside : c ∈ Text.trim piece) : (c ∈ t ∧ c ≠ ' ') ∧ c ≠ ',' := by
    obtain ⟨kept, other⟩ := Text.mem_of_mem_splitOn split (Text.trim_subset piece inside)
    obtain ⟨source, solid⟩ := List.mem_filter.mp kept
    exact ⟨⟨source, bne_iff_ne.mp solid⟩, other⟩
  exact {
    nonempty := of_decide_eq_true nonempty
    trimmed := Text.trim_trim piece
    space := fun inside => (origin inside).1.2 rfl
    comma := fun inside => (origin inside).2 rfl
    mark := fun inside => uncommented (origin inside).1.1 }

/-- The first word of a line that says something is not empty. -/
theorem mnemonic_read_ne_nil {raw : Text} (remains : Line.code raw ≠ []) : (read raw).mnemonic ≠ [] := by
  obtain ⟨c, rest, same⟩ := List.exists_cons_of_ne_nil remains
  have solid : Text.isBlank c = false := Line.isBlank_of_code same
  have start : Text.upTo ' ' (c :: rest) = c :: Text.upTo ' ' rest := by
    have other : (c != ' ') = true := by
      rw [bne_iff_ne]
      rintro rfl
      cases solid
    exact List.takeWhile_cons_of_pos other
  have trimmed : Text.trim (c :: Text.upTo ' ' rest) = c :: Text.trimRight (Text.upTo ' ' rest) := by
    rw [Text.trim, Text.trimLeft_cons solid]
    exact Text.trimRight_append_cons solid [] _
  simp only [read, same, start, trimmed]
  exact List.cons_ne_nil _ _

theorem read_isNormal (raw : Text) : (read raw).IsNormal := by
  have uncommented : Line.commentMark ∉ Line.code raw := Text.not_mem_upTo _ _
  have word : (read raw).mnemonic ⊆ Text.upTo ' ' (Line.code raw) := Text.trim_subset _
  refine {
    trimmed := Text.trim_trim _
    space := fun inside => Text.not_mem_upTo ' ' _ (word inside)
    mark := fun inside => uncommented (List.takeWhile_subset _ (word inside))
    operands := fun t listed => ?_
    bare := fun empty => ?_ }
  · refine isOperand_of_mem_splitArgs (fun inside => uncommented ?_) listed
    cases behind : Text.after? ' ' (Line.code raw) with
    | none =>
      rw [behind] at inside
      cases inside
    | some rest =>
      rw [behind] at inside
      exact Text.subset_of_after? behind inside
  · have silent : Line.code raw = [] := by
      by_contra remains
      exact mnemonic_read_ne_nil remains empty
    rw [read, silent]
    decide

/-- The statements of normal form are those that are read from their own text. -/
theorem isNormal_iff {s : Statement} : s.IsNormal ↔ read s.text = s := by
  constructor
  · exact IsNormal.read_text
  · intro same
    rw [← same]
    exact read_isNormal s.text

/-- Reading brings a line into a normal form. The statement that is read has parts without blanks
around them and with nothing in them that divides a line, it is read again from its own text, and so
this text is encoded as the line is, against any labels and under any options. The statements of this
form are those that are read from their own text. -/
theorem read_gives_normal_form (raw : Text) :
    (read raw).IsNormal ∧ read (read raw).text = read raw ∧
      (∀ (codecs : Codecs) (e : Emission codecs), e.encode (read (read raw).text) = e.encode (read raw)) ∧
      ∀ s : Statement, s.IsNormal ↔ read s.text = s := by
  have normal := read_isNormal raw
  have again : read (read raw).text = read raw := normal.read_text
  exact ⟨normal, again, fun _ e => by rw [again], fun s => isNormal_iff⟩

example : (read "  SETT\t r0\t,, 'a b' ; c".toList).text = "SETT r0, 'ab'".toList := by decide

end Statement

end SledeCode
