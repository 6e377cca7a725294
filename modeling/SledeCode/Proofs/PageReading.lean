import SledeCode.Proofs.ListedCharacters
import SledeCode.Proofs.SignificantLines
import SledeCode.Proofs.Utf8Reading
import SledeCode.Tool.Disassemble

namespace SledeCode

namespace Text

/-- A line feed ends a styling sequence that was begun. -/
theorem dropStyling_append_newline (pending t rest : Text) :
    dropStyling pending (t ++ '\n' :: rest) = dropStyling pending t ++ '\n' :: dropStyling [] rest := by
  induction t generalizing pending with
  | nil =>
    have letter : Char.isAlpha '\n' = false := by decide
    have code : isStyleCode '\n' = false := by decide
    simp [dropStyling, letter, code, escapeChar]
  | cons c t ih =>
    -- What becomes of a character depends on what is pending and not on what comes later.
    simp only [List.cons_append, dropStyling, ih]
    split
    · rfl
    · split
      · rfl
      · split <;> simp

/-- What a stream may make of a text: it goes line by line, and takes nothing out but sequences that
begin with an escape character. -/
structure IsEcho (echo : Text → Text) : Prop where
  empty : echo [] = []
  newline : ∀ t rest, echo (t ++ '\n' :: rest) = echo t ++ '\n' :: echo rest
  unstyled : ∀ t rest, escapeChar ∉ t → echo (t ++ rest) = t ++ echo rest

theorem isEcho_plain : IsEcho plain where
  empty := rfl
  newline := dropStyling_append_newline []
  unstyled t rest unstyled := by
    induction t with
    | nil => rfl
    | cons c t ih =>
      obtain ⟨first, later⟩ := not_or.mp (List.mem_cons.not.mp unstyled)
      have kept : plain (c :: (t ++ rest)) = c :: plain (t ++ rest) := by
        simp [plain, dropStyling, Ne.symm first]
      rw [List.cons_append, kept, ih later]
      rfl

theorem significantLines_append_newline (t rest : Text) :
    significantLines (t ++ '\n' :: rest) = significantLines t ++ significantLines rest := by
  rw [significantLines, lines_append_newline, Line.significant_append]
  rfl

theorem lines_append_of_not_mem {t : Text} (inline : '\n' ∉ t) (rest : Text) :
    lines (t ++ rest) = (lines rest).modifyHead (t ++ ·) := by
  induction t with
  | nil => cases split : lines rest <;> simp [split]
  | cons c t ih =>
    obtain ⟨first, later⟩ := not_or.mp (List.mem_cons.not.mp inline)
    have split := ih later
    rw [lines] at split ⊢
    rw [List.cons_append, List.splitOn_cons_eq_if_modifyHead, split, if_neg (by simpa using Ne.symm first)]
    cases lines rest <;> rfl

theorem significantLines_unlines {ls : List Text} (inline : ∀ t ∈ ls, '\n' ∉ t) :
    significantLines (unlines ls) = Line.significant ls := by
  rw [significantLines, lines_unlines inline]
  split
  · rename_i empty
    subst empty
    decide
  · rfl

end Text

namespace Utf8

theorem normalNewlines_cons {c : Char} (other : c ≠ '\r') (rest : Text) :
    normalNewlines (c :: rest) = c :: normalNewlines rest :=
  normalNewlines.eq_4 c rest (fun _ same _ => other same) other

theorem normalNewlines_append_of_not_mem {t : Text} (plain : '\r' ∉ t) (rest : Text) :
    normalNewlines (t ++ rest) = t ++ normalNewlines rest := by
  induction t with
  | nil => rfl
  | cons c t ih =>
    obtain ⟨first, later⟩ := not_or.mp (List.mem_cons.not.mp plain)
    rw [List.cons_append, normalNewlines_cons (Ne.symm first), ih later]
    rfl

/-- A line feed ends a line. If a carriage return stands before it, that would have ended the same line. -/
theorem normalNewlines_append_newline (t rest : Text) :
    ∃ u, (normalNewlines t = u ∨ normalNewlines t = u ++ ['\n']) ∧
      normalNewlines (t ++ '\n' :: rest) = u ++ '\n' :: normalNewlines rest := by
  fun_induction normalNewlines t with
  | case1 => exact ⟨[], Or.inl rfl, normalNewlines_cons (by decide) rest⟩
  | case2 t ih =>
    obtain ⟨u, ends, whole⟩ := ih
    rw [List.cons_append, List.cons_append, normalNewlines]
    exact ⟨'\n' :: u, ends.imp (congrArg ('\n' :: ·)) (congrArg ('\n' :: ·)), congrArg ('\n' :: ·) whole⟩
  | case3 t other ih =>
    cases t with
    -- Only a carriage return at the very end meets the line feed.
    | nil => exact ⟨[], Or.inr rfl, by simp [normalNewlines]⟩
    | cons c t =>
      have lone : ∀ later, c :: t ++ '\n' :: rest = '\n' :: later → False :=
        fun later same => other t (by rw [(List.cons.inj same).1])
      obtain ⟨u, ends, whole⟩ := ih
      rw [List.cons_append, normalNewlines.eq_3 _ lone]
      exact ⟨'\n' :: u, ends.imp (congrArg ('\n' :: ·)) (congrArg ('\n' :: ·)), congrArg ('\n' :: ·) whole⟩
  | case4 c t _ other ih =>
    obtain ⟨u, ends, whole⟩ := ih
    rw [List.cons_append, normalNewlines_cons other]
    exact ⟨c :: u, ends.imp (congrArg (c :: ·)) (congrArg (c :: ·)), congrArg (c :: ·) whole⟩

theorem significantLines_normalNewlines_append (t rest : Text) :
    (normalNewlines (t ++ '\n' :: rest)).significantLines =
      (normalNewlines t).significantLines ++ (normalNewlines rest).significantLines := by
  obtain ⟨u, ends, whole⟩ := normalNewlines_append_newline t rest
  rw [whole, Text.significantLines_append_newline]
  rcases ends with same | same
  · rw [same]
  · have blank : Text.significantLines [] = [] := by decide
    rw [same, Text.significantLines_append_newline, blank, List.append_nil]

end Utf8

namespace Line

theorem isSignificant_comment (t : Text) : isSignificant (Text.trim (commentMark :: t)) = false := by
  have solid : Text.isBlank commentMark = false := by decide
  have kept : Text.trim (commentMark :: t) = commentMark :: Text.trimRight t := by
    rw [Text.trim, Text.trimLeft, List.dropWhile_cons_of_neg (by simp [solid])]
    exact Text.trimRight_append_cons solid [] t
  simp [kept, isSignificant]

end Line

/-- Whether a text that is read behind a comment mark is a comment to its end: each further line of
it is blank or a comment as well. -/
def Text.StaysComment (t : Text) : Prop :=
  ∀ line ∈ (Text.lines (Utf8.normalNewlines t)).tail, Line.isSignificant (Text.trim line) = false

instance (t : Text) : Decidable t.StaysComment :=
  inferInstanceAs (Decidable (∀ line ∈ (Text.lines (Utf8.normalNewlines t)).tail, _ = false))

theorem Text.StaysComment.significantLines {t : Text} (stays : t.StaysComment) {mark : Text}
    (inline : '\n' ∉ mark) (plain : '\r' ∉ mark) (comment : mark.head? = some Line.commentMark) :
    (Utf8.normalNewlines (mark ++ t)).significantLines = [] := by
  rw [Utf8.normalNewlines_append_of_not_mem plain, Text.significantLines, Text.lines_append_of_not_mem inline]
  obtain ⟨first, others, split⟩ := List.exists_cons_of_ne_nil (List.splitOn_ne_nil '\n' (Utf8.normalNewlines t))
  have later : Line.significant others = [] := by
    refine List.filter_eq_nil_iff.mpr fun line member => ?_
    obtain ⟨raw, listed, rfl⟩ := List.mem_map.mp member
    have silent := stays raw (by rw [Text.lines, split]; exact listed)
    simp [silent]
  obtain ⟨rest, rfl⟩ := List.head?_eq_some_iff.mp comment
  rw [Text.lines, split, List.modifyHead_cons, Line.significant_cons, List.cons_append,
    Line.isSignificant_comment, later]
  rfl

namespace DisassembleCommand

/-- What a page says below the name of its file. -/
def pageRest (size : Nat) (lines : List Text) : List Text :=
  ("; Size: ".toList ++ Text.decimal size ++ " bytes".toList) :: [] :: lines

theorem page_eq (name : Text) (size : Nat) (lines : List Text) :
    page name size lines =
      "; Disassembly of ".toList ++ name ++ '\n' :: (Text.unlines (pageRest size lines) ++ ['\n']) := by
  rw [page, Text.unlines, List.intercalate_cons_cons]
  simp [pageRest, Text.unlines]

variable {lines : List Text}

theorem isControlFree_pageRest (size : Nat) (free : ∀ line ∈ lines, line.IsControlFree) :
    ∀ line ∈ pageRest size lines, line.IsControlFree := by
  have first : Text.IsControlFree ("; Size: ".toList ++ Text.decimal size ++ " bytes".toList) :=
    ((Text.isControlFree_of_all rfl).append (Text.isControlFree_decimal size)).append (Text.isControlFree_of_all rfl)
  exact List.forall_mem_cons.mpr ⟨first, List.forall_mem_cons.mpr ⟨Text.isControlFree_of_all rfl, free⟩⟩

theorem not_mem_pageRest {c : Char} (control : c < ' ') (other : c ≠ '\n') (size : Nat)
    (free : ∀ line ∈ lines, line.IsControlFree) : c ∉ Text.unlines (pageRest size lines) ++ ['\n'] := by
  intro member
  rcases List.mem_append.mp member with inside | last
  · rcases Text.mem_intercalate inside with ⟨line, listed, within⟩ | newline
    · exact (isControlFree_pageRest size free line listed).not_mem control within
    · exact other (List.mem_singleton.mp newline)
  · exact other (List.mem_singleton.mp last)

/-- Of a page only the name of its file may be shown in another way. -/
theorem echo_page {echo : Text → Text} (lawful : Text.IsEcho echo) (name : Text) (size : Nat)
    (free : ∀ line ∈ lines, line.IsControlFree) : echo (page name size lines) = page (echo name) size lines := by
  have rest := lawful.unstyled _ [] (not_mem_pageRest (by decide) (by decide) size free)
  rw [List.append_nil, lawful.empty, List.append_nil] at rest
  rw [page_eq, page_eq, lawful.newline, rest, lawful.unstyled _ _ (by decide)]

theorem significant_pageRest (size : Nat) (lines : List Text) :
    Line.significant (pageRest size lines) = Line.significant lines := by
  have comment : Line.isSignificant
      (Text.trim ("; Size: ".toList ++ Text.decimal size ++ " bytes".toList)) = false :=
    Line.isSignificant_comment _
  rw [pageRest, Line.significant_cons, comment]
  rfl

/-- Read back as a source, a page says what its lines say. -/
theorem significantLines_page {name : Text} (stays : name.StaysComment) (size : Nat)
    (free : ∀ line ∈ lines, line.IsControlFree) :
    (Utf8.normalNewlines (page name size lines)).significantLines = (Text.unlines lines).significantLines := by
  have inline (ls : List Text) (free : ∀ line ∈ ls, line.IsControlFree) : ∀ line ∈ ls, '\n' ∉ line :=
    fun line listed => (free line listed).not_mem (by decide)
  have rest := Utf8.normalNewlines_append_of_not_mem (not_mem_pageRest (by decide) (by decide) size free) []
  rw [List.append_nil] at rest
  have blank : Text.significantLines [] = [] := by decide
  calc (Utf8.normalNewlines (page name size lines)).significantLines
      = (Text.unlines (pageRest size lines) ++ ['\n']).significantLines := by
        rw [page_eq, Utf8.significantLines_normalNewlines_append, rest, Utf8.normalNewlines, List.append_nil,
          stays.significantLines (by decide) (by decide) (by decide), List.nil_append]
    _ = Line.significant (pageRest size lines) := by
        rw [Text.significantLines_append_newline, blank, List.append_nil,
          Text.significantLines_unlines (inline _ (isControlFree_pageRest size free))]
    _ = (Text.unlines lines).significantLines := by
        rw [significant_pageRest, Text.significantLines_unlines (inline _ free)]

end DisassembleCommand

end SledeCode
