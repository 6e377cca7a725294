import Mathlib.Data.List.DropRight
import SledeCode.Statement

namespace SledeCode

namespace Text

theorem bne_of_not_mem {stop : Char} {t : Text} (free : stop ∉ t) : ∀ c ∈ t, (c != stop) = true := by
  intro c member
  exact bne_iff_ne.mpr (fun same => free (same ▸ member))

theorem upTo_of_not_mem {stop : Char} {t : Text} (free : stop ∉ t) : upTo stop t = t :=
  List.takeWhile_eq_self_iff.mpr (bne_of_not_mem free)

theorem upTo_append_cons {stop : Char} {t : Text} (free : stop ∉ t) (rest : Text) :
    upTo stop (t ++ stop :: rest) = t := by
  rw [upTo, List.takeWhile_append_of_pos (bne_of_not_mem free), List.takeWhile_cons_of_neg (by simp), List.append_nil]

theorem after?_of_not_mem {stop : Char} {t : Text} (free : stop ∉ t) : after? stop t = none := by
  simp only [after?, List.dropWhile_eq_nil_iff.mpr (bne_of_not_mem free)]

theorem after?_append_cons {stop : Char} {t : Text} (free : stop ∉ t) (rest : Text) :
    after? stop (t ++ stop :: rest) = some rest := by
  rw [after?, List.dropWhile_append_of_pos (bne_of_not_mem free), List.dropWhile_cons_of_neg (by simp)]

theorem subset_of_after? {stop : Char} {t rest : Text} (found : after? stop t = some rest) : rest ⊆ t := by
  unfold after? at found
  split at found
  · cases found
  · rename_i first behind dropped
    cases found
    intro c member
    have inside : c ∈ t.dropWhile (· != stop) := dropped ▸ List.mem_cons_of_mem first member
    exact List.dropWhile_subset _ inside

/-- Trimming on the right stops at the last character that is not blank. -/
theorem trimRight_append_cons {c : Char} (solid : isBlank c = false) (t rest : Text) :
    trimRight (t ++ c :: rest) = t ++ c :: trimRight rest := by
  have split : (t ++ c :: rest).reverse = rest.reverse ++ c :: t.reverse := by simp
  rw [trimRight, split, List.dropWhile_append]
  split
  · rename_i empty
    simp [trimRight, List.isEmpty_iff.mp empty, solid]
  · simp [trimRight]

theorem trimLeft_cons {t : Text} {c : Char} (solid : isBlank c = false) : trimLeft (c :: t) = c :: t :=
  List.dropWhile_cons_of_neg (by simp [solid])

theorem isBlank_of_trimLeft {c : Char} {t rest : Text} (start : trimLeft t = c :: rest) : isBlank c = false := by
  have first := List.head?_dropWhile_not isBlank t
  rw [show t.dropWhile isBlank = c :: rest from start] at first
  simpa using first

theorem trimRight_trimRight (t : Text) : trimRight (trimRight t) = trimRight t := by
  simp only [trimRight, List.reverse_reverse, List.dropWhile_idempotent]

/-- Trimming twice is trimming once. -/
theorem trim_trim (t : Text) : trim (trim t) = trim t := by
  show trimRight (trimLeft (trimRight (trimLeft t))) = trimRight (trimLeft t)
  cases start : trimLeft t with
  | nil => rfl
  | cons c rest =>
    have solid : isBlank c = false := isBlank_of_trimLeft start
    have kept : trimRight (c :: rest) = c :: trimRight rest := trimRight_append_cons solid [] rest
    rw [kept, trimLeft_cons solid]
    have again : trimRight (c :: trimRight rest) = c :: trimRight (trimRight rest) :=
      trimRight_append_cons solid [] (trimRight rest)
    rw [again, trimRight_trimRight]

theorem trim_subset (t : Text) : trim t ⊆ t := by
  intro c member
  have inside : c ∈ (trimLeft t).reverse := List.dropWhile_subset _ (List.mem_reverse.mp member)
  exact List.dropWhile_subset _ (List.mem_reverse.mp inside)

/-- What trimming leaves starts with a character that is not blank. -/
theorem isBlank_of_trim {c : Char} {t rest : Text} (shown : trim t = c :: rest) : isBlank c = false := by
  rw [trim] at shown
  cases start : trimLeft t with
  | nil =>
    rw [start] at shown
    cases shown
  | cons d tail =>
    have solid : isBlank d = false := isBlank_of_trimLeft start
    have kept : trimRight (d :: tail) = d :: trimRight tail := trimRight_append_cons solid [] tail
    rw [start, kept] at shown
    exact (List.cons.inj shown).1 ▸ solid

theorem trimRight_of_trimmed {t : Text} (trimmed : trim t = t) : trimRight t = t := by
  rw [← trimmed, trim, trimRight_trimRight]

/-- Trimming on the right goes no further than a trimmed part at the end. -/
theorem trimRight_append {u : Text} (nonempty : u ≠ []) (trimmed : trim u = u) (t : Text) :
    trimRight (t ++ u) = t ++ u := by
  have kept : u.reverse.dropWhile isBlank = u.reverse := by
    rw [← List.reverse_inj, List.reverse_reverse]
    exact trimRight_of_trimmed trimmed
  rw [trimRight, List.reverse_append, List.dropWhile_append, kept, if_neg (by simpa using nonempty),
    List.reverse_append, List.reverse_reverse, List.reverse_reverse]

/-- Nothing is trimmed on the left of a text that starts with a trimmed part. -/
theorem trim_append {t : Text} (nonempty : t ≠ []) (trimmed : trim t = t) (u : Text) :
    trim (t ++ u) = trimRight (t ++ u) := by
  obtain ⟨c, rest, rfl⟩ := List.exists_cons_of_ne_nil nonempty
  rw [trim, List.cons_append, trimLeft_cons (isBlank_of_trim trimmed)]

/-- A character that means nothing to the reader of a line: no blank and no punctuation. -/
def isWordChar (c : Char) : Bool := !isBlank c && c != ',' && c != ';' && c != ':'

/-- A text that is read as a single word wherever it stands. -/
structure IsWord (t : Text) : Prop where
  nonempty : t ≠ []
  chars : ∀ c ∈ t, isWordChar c = true

theorem isBlank_of_isWordChar {c : Char} (word : isWordChar c = true) : isBlank c = false := by
  simp only [isWordChar, Bool.and_eq_true, Bool.not_eq_true'] at word
  exact word.1.1.1

theorem IsWord.not_mem {t : Text} (word : IsWord t) {d : Char} (other : isWordChar d = false) : d ∉ t := by
  intro member
  rw [word.chars d member] at other
  exact Bool.noConfusion other

theorem IsWord.trim_eq {w : Text} (word : IsWord w) : trim w = w := by
  have solid {c : Char} (member : c ∈ w) : isBlank c = false := isBlank_of_isWordChar (word.chars c member)
  have left : trimLeft w = w := by
    obtain ⟨c, rest, rfl⟩ := List.exists_cons_of_ne_nil word.nonempty
    exact trimLeft_cons (solid List.mem_cons_self)
  obtain ⟨front, c, rfl⟩ := List.eq_nil_or_concat' w |>.resolve_left word.nonempty
  have right := trimRight_append_cons (solid (List.mem_append_right front List.mem_cons_self)) front []
  rw [trim, left, right]
  rfl

@[simp] theorem commaList_nil : commaList [] = [] := rfl

@[simp] theorem commaList_singleton (t : Text) : commaList [t] = t := by
  simp [commaList]

@[simp] theorem commaList_cons_cons (t u : Text) (ts : List Text) :
    commaList (t :: u :: ts) = t ++ ',' :: ' ' :: commaList (u :: ts) := by
  simp [commaList, List.intercalate_cons_cons]

theorem mem_intercalate {separator : Text} {ts : List Text} {c : Char}
    (member : c ∈ List.intercalate separator ts) : (∃ t ∈ ts, c ∈ t) ∨ c ∈ separator := by
  induction ts with
  | nil => simp at member
  | cons t ts ih =>
    cases ts with
    | nil => exact Or.inl ⟨t, by simp, by simpa using member⟩
    | cons u us =>
      rw [List.intercalate_cons_cons, List.mem_append, List.mem_append] at member
      rcases member with (inside | between) | later
      · exact Or.inl ⟨t, by simp, inside⟩
      · exact Or.inr between
      · rcases ih later with ⟨v, listed, inside⟩ | between
        · exact Or.inl ⟨v, List.mem_cons_of_mem _ listed, inside⟩
        · exact Or.inr between

theorem mem_commaList {ts : List Text} {c : Char} (member : c ∈ commaList ts) :
    (∃ t ∈ ts, c ∈ t) ∨ c = ',' ∨ c = ' ' :=
  (mem_intercalate member).imp_right (by simp)

/-- The lines that printed lines are read as; a text of no lines has a blank one. -/
theorem lines_unlines {ls : List Text} (inline : ∀ line ∈ ls, '\n' ∉ line) :
    lines (unlines ls) = if ls = [] then [[]] else ls := by
  split
  · rename_i empty
    rw [empty]
    rfl
  · rename_i some
    exact List.splitOn_intercalate '\n' inline some

/-- The parts of a text consist of its characters other than the one it is split at. -/
theorem mem_of_mem_splitOn {separator c : Char} {t part : Text} (member : part ∈ t.splitOn separator)
    (inside : c ∈ part) : c ∈ t ∧ c ≠ separator := by
  induction t generalizing part with
  | nil =>
    rw [List.splitOn_nil, List.mem_singleton] at member
    simp [member] at inside
  | cons d rest ih =>
    have later {other : Text} (listed : other ∈ rest.splitOn separator) (within : c ∈ other) :
        c ∈ d :: rest ∧ c ≠ separator := (ih listed within).imp_left (List.mem_cons_of_mem d)
    rw [List.splitOn_cons_eq_if_modifyHead] at member
    split at member
    · rcases List.mem_cons.mp member with rfl | listed
      · simp at inside
      · exact later listed inside
    · rename_i other
      cases parts : rest.splitOn separator with
      | nil => exact absurd parts (List.splitOn_ne_nil _ _)
      | cons first others =>
        rw [parts] at member later
        rcases List.mem_cons.mp member with rfl | listed
        · rcases List.mem_cons.mp inside with rfl | after
          · exact ⟨List.mem_cons_self, bne_iff_ne.mp (by simpa using other)⟩
          · exact later List.mem_cons_self after
        · exact later (List.mem_cons_of_mem _ listed) inside

theorem not_mem_of_mem_splitOn {separator : Char} {t part : Text} (member : part ∈ t.splitOn separator) :
    separator ∉ part := fun inside => (mem_of_mem_splitOn member inside).2 rfl

/-- Without the spaces, a comma list is the parts without their spaces and with bare commas between them. -/
theorem filter_commaList_map (ts : List Text) :
    (commaList ts).filter (· != ' ') = List.intercalate [','] (ts.map fun t => t.filter (· != ' ')) := by
  induction ts with
  | nil => rfl
  | cons t ts ih =>
    cases ts with
    | nil => simp
    | cons u us =>
      rw [List.map_cons] at ih
      rw [commaList_cons_cons, List.filter_append, List.map_cons, List.map_cons, List.intercalate_cons_cons, ← ih]
      simp

theorem filter_commaList {ts : List Text} (spaceless : ∀ t ∈ ts, ' ' ∉ t) :
    (commaList ts).filter (· != ' ') = List.intercalate [','] ts := by
  have whole : ts.map (fun t => t.filter (· != ' ')) = ts :=
    (List.map_congr_left fun t listed => List.filter_eq_self.mpr (bne_of_not_mem (spaceless t listed))).trans
      (List.map_id _)
  rw [filter_commaList_map, whole]

theorem intercalate_ends (separator : Text) {ts : List Text} (nonempty : ts ≠ []) :
    ∃ front, List.intercalate separator ts = front ++ ts.getLast nonempty := by
  induction ts with
  | nil => exact absurd rfl nonempty
  | cons t ts ih =>
    cases ts with
    | nil => exact ⟨[], by simp⟩
    | cons u us =>
      obtain ⟨front, same⟩ := ih (List.cons_ne_nil u us)
      exact ⟨t ++ separator ++ front, by simp [List.intercalate_cons_cons, same]⟩

end Text

namespace Statement

theorem text_eq_append (s : Statement) :
    ∃ t, s.text = s.mnemonic ++ t ∧ (s.args = [] ∧ t = [] ∨ t = ' ' :: Text.commaList s.args) := by
  simp only [text]
  split
  · exact ⟨[], by simp, Or.inl ⟨‹_›, rfl⟩⟩
  · exact ⟨_, rfl, Or.inr rfl⟩

theorem mem_text {s : Statement} {c : Char} (member : c ∈ s.text) :
    (c ∈ s.mnemonic ∨ ∃ t ∈ s.args, c ∈ t) ∨ c = ',' ∨ c = ' ' := by
  obtain ⟨t, same, ⟨_, rfl⟩ | rfl⟩ := s.text_eq_append
  · rw [same, List.append_nil] at member
    exact Or.inl (Or.inl member)
  · rw [same, List.mem_append, List.mem_cons] at member
    rcases member with inside | space | later
    · exact Or.inl (Or.inl inside)
    · exact Or.inr (Or.inr space)
    · exact (Text.mem_commaList later).imp_left Or.inr

/-- An operand as it is read: some text without blanks around it and with nothing in it that ends
an operand or is left out of it. -/
structure IsOperand (t : Text) : Prop where
  nonempty : t ≠ []
  trimmed : Text.trim t = t
  space : ' ' ∉ t
  comma : ',' ∉ t
  mark : Line.commentMark ∉ t

/-- A statement as it is read from a line, see `read_isNormal`. Blanks other than the space may stand
inside its parts, and only the line that says nothing has no first word. -/
structure IsNormal (s : Statement) : Prop where
  trimmed : Text.trim s.mnemonic = s.mnemonic
  space : ' ' ∉ s.mnemonic
  mark : Line.commentMark ∉ s.mnemonic
  operands : ∀ t ∈ s.args, IsOperand t
  bare : s.mnemonic = [] → s.args = []

theorem splitArgs_eq {t : Text} {args : List Text} (operands : ∀ a ∈ args, IsOperand a)
    (written : t.filter (· != ' ') = List.intercalate [','] args) : splitArgs t = args := by
  rw [splitArgs, written]
  cases args with
  | nil => decide
  | cons a as =>
    rw [List.splitOn_intercalate ',' (fun u listed => (operands u listed).comma) (by simp)]
    have trimmed : (a :: as).map Text.trim = a :: as :=
      (List.map_congr_left fun u listed => (operands u listed).trimmed).trans (List.map_id _)
    rw [trimmed, List.filter_eq_self]
    intro u listed
    simpa using (operands u listed).nonempty

theorem read_eq {s : Statement} (normal : s.IsNormal) {raw : Text} (rest : Text)
    (code : Line.code raw = s.mnemonic ++ ' ' :: rest)
    (written : rest.filter (· != ' ') = List.intercalate [','] s.args) : read raw = s := by
  rw [read, code, Text.upTo_append_cons normal.space, Text.after?_append_cons normal.space,
    normal.trimmed, Option.getD_some, splitArgs_eq normal.operands written]

namespace IsNormal

variable {s : Statement}

theorem mark_not_mem_text (normal : s.IsNormal) : Line.commentMark ∉ s.text := by
  intro member
  rcases mem_text member with (first | ⟨t, listed, inside⟩) | comma | space
  · exact normal.mark first
  · exact (normal.operands t listed).mark inside
  · exact absurd comma (by decide)
  · exact absurd space (by decide)

theorem filter_args (normal : s.IsNormal) :
    (Text.commaList s.args).filter (· != ' ') = List.intercalate [','] s.args :=
  Text.filter_commaList (fun t listed => (normal.operands t listed).space)

theorem trim_append (normal : s.IsNormal) (named : s.mnemonic ≠ []) (rest : Text) :
    Text.trim (s.text ++ rest) = Text.trimRight (s.text ++ rest) := by
  obtain ⟨t, same, _⟩ := s.text_eq_append
  rw [same, List.append_assoc]
  exact Text.trim_append named normal.trimmed (t ++ rest)

theorem trimRight_text (normal : s.IsNormal) : Text.trimRight s.text = s.text := by
  simp only [text]
  split
  · exact Text.trimRight_of_trimmed normal.trimmed
  · rename_i some
    obtain ⟨front, same⟩ := Text.intercalate_ends [',', ' '] some
    have last := normal.operands _ (List.getLast_mem some)
    have ends := Text.trimRight_append last.nonempty last.trimmed (s.mnemonic ++ ' ' :: front)
    simpa [Text.commaList, same] using ends

theorem trim_text (normal : s.IsNormal) : Text.trim s.text = s.text := by
  by_cases named : s.mnemonic = []
  · have empty : s.text = [] := by rw [text, if_pos (normal.bare named), named]
    rw [empty]
    rfl
  · have whole := normal.trim_append named []
    rw [List.append_nil] at whole
    exact whole.trans normal.trimRight_text

theorem code_text (normal : s.IsNormal) : Line.code s.text = s.text := by
  rw [Line.code, normal.trim_text]
  exact Text.upTo_of_not_mem normal.mark_not_mem_text

theorem read_text (normal : s.IsNormal) : read s.text = s := by
  have code := normal.code_text
  obtain ⟨t, same, ⟨none, rfl⟩ | rfl⟩ := s.text_eq_append
  · rw [List.append_nil] at same
    rw [read, code, same, Text.upTo_of_not_mem normal.space, Text.after?_of_not_mem normal.space,
      normal.trimmed, Option.getD_none, splitArgs_eq normal.operands (by rw [none]; rfl)]
  · exact read_eq normal _ (code.trans same) normal.filter_args

end IsNormal

theorem isOperand_of_isWord {t : Text} (word : Text.IsWord t) : IsOperand t where
  nonempty := word.nonempty
  trimmed := word.trim_eq
  space := word.not_mem (by decide)
  comma := word.not_mem (by decide)
  mark := word.not_mem (by decide)

/-- A statement written with words only, so that nothing in it is taken for punctuation. -/
structure IsPlain (s : Statement) : Prop where
  mnemonic : Text.IsWord s.mnemonic
  args : ∀ t ∈ s.args, Text.IsWord t

theorem IsPlain.isNormal {s : Statement} (plain : s.IsPlain) : s.IsNormal where
  trimmed := plain.mnemonic.trim_eq
  space := plain.mnemonic.not_mem (by decide)
  mark := plain.mnemonic.not_mem (by decide)
  operands := fun t listed => isOperand_of_isWord (plain.args t listed)
  bare := fun empty => absurd empty plain.mnemonic.nonempty

theorem IsPlain.not_mem_text {s : Statement} (plain : s.IsPlain) {c : Char}
    (other : Text.isWordChar c = false) (comma : c ≠ ',') (space : c ≠ ' ') : c ∉ s.text := by
  intro member
  rcases mem_text member with (first | ⟨t, listed, inside⟩) | same | same
  · exact plain.mnemonic.not_mem other first
  · exact (plain.args t listed).not_mem other inside
  · exact comma same
  · exact space same

theorem IsPlain.trim_commented {s : Statement} (plain : s.IsPlain) (remark : Text) :
    Text.trim (s.text ++ ' ' :: Line.commentMark :: remark) =
      s.text ++ ' ' :: Line.commentMark :: Text.trimRight remark := by
  have solid : Text.isBlank Line.commentMark = false := by decide
  have tail := Text.trimRight_append_cons solid (s.text ++ [' ']) remark
  rw [plain.isNormal.trim_append plain.mnemonic.nonempty]
  simpa using tail

/-- Whatever a comment says, the statement before it is what remains of the line. -/
theorem IsPlain.code_commented {s : Statement} (plain : s.IsPlain) (remark : Text) :
    Line.code (s.text ++ ' ' :: Line.commentMark :: remark) = s.text ++ [' '] := by
  have free : Line.commentMark ∉ s.text ++ [' '] := by
    simpa using And.intro plain.isNormal.mark_not_mem_text (by decide : ¬Line.commentMark = ' ')
  have cut := Text.upTo_append_cons free (Text.trimRight remark)
  rw [Line.code, plain.trim_commented]
  simpa using cut

theorem IsPlain.read_commented {s : Statement} (plain : s.IsPlain) (remark : Text) :
    read (s.text ++ ' ' :: Line.commentMark :: remark) = s := by
  have code := plain.code_commented remark
  obtain ⟨t, same, ⟨none, rfl⟩ | rfl⟩ := s.text_eq_append
  · exact read_eq plain.isNormal [] (code.trans (by simp [same])) (by rw [none]; rfl)
  · exact read_eq plain.isNormal (Text.commaList s.args ++ [' ']) (code.trans (by simp [same]))
      (by rw [List.filter_append, plain.isNormal.filter_args]; simp)

end Statement

namespace Line

theorem isLabel_iff {line : Text} :
    isLabel line = true ↔ ∃ name, name ≠ [] ∧ (∀ c ∈ name, isLabelChar c = true) ∧ line = name ++ [':'] := by
  simp only [isLabel, Bool.and_eq_true, decide_eq_true_eq, beq_iff_eq]
  constructor
  · rintro ⟨nonempty, same⟩
    exact ⟨_, nonempty, fun c inside => List.mem_takeWhile_imp inside, same⟩
  · rintro ⟨name, nonempty, chars, rfl⟩
    have whole : (name ++ [':']).takeWhile isLabelChar = name := by
      rw [List.takeWhile_append_of_pos chars, List.takeWhile_cons_of_neg (by decide), List.append_nil]
    exact ⟨by rwa [whole], by rw [whole]⟩

theorem kind_label {name : Text} (nonempty : name ≠ []) (chars : ∀ c ∈ name, isLabelChar c = true) :
    kind (name ++ [':']) = .label := by
  obtain ⟨c, rest, rfl⟩ := List.exists_cons_of_ne_nil nonempty
  have head : c ≠ commentMark := by
    rintro rfl
    exact absurd (chars commentMark (by simp)) (by decide)
  have label := isLabel_iff.mpr ⟨c :: rest, nonempty, chars, rfl⟩
  rw [kind, if_neg (by simp), if_neg (by simpa using head), if_pos label]

theorem isWord_dataWord : Text.IsWord dataWord := by
  have chars : dataWord.all Text.isWordChar = true := by decide
  exact ⟨by decide, List.all_eq_true.mp chars⟩

/-- A line that starts with a word and is no label is data or code by that word. -/
theorem kind_of_word {word rest : Text} {line : Text} (isWord : Text.IsWord word)
    (starts : line = word ++ rest) (other : isLabel line = false)
    (first : Text.upTo ' ' (code line) = word) :
    kind line = if word = dataWord then .data else .instruction := by
  obtain ⟨c, tail, rfl⟩ := List.exists_cons_of_ne_nil isWord.nonempty
  have head : c ≠ commentMark := by
    rintro rfl
    exact isWord.not_mem (d := commentMark) (by decide) (by simp)
  rw [kind, if_neg (by simp [starts]), if_neg (by simpa [starts] using head), if_neg (by simp [other]), first]

end Line

namespace Statement

/-- The line stands for the statement in both passes: it is classified by the mnemonic of the
statement, and it is read as that statement. -/
structure IsOn (s : Statement) (line : Text) : Prop where
  kind : Line.kind line = if s.mnemonic = dataWord then .data else .instruction
  read : Statement.read line = s

theorem IsPlain.upTo_text {s : Statement} (plain : s.IsPlain) (rest : Text)
    (blank : rest = [] ∨ rest = [' ']) : Text.upTo ' ' (s.text ++ rest) = s.mnemonic := by
  have spaceless : ' ' ∉ s.mnemonic := plain.mnemonic.not_mem (by decide)
  obtain ⟨t, same, ⟨_, rfl⟩ | rfl⟩ := s.text_eq_append
  · rcases blank with rfl | rfl
    · simpa [same] using Text.upTo_of_not_mem spaceless
    · simpa [same] using Text.upTo_append_cons spaceless []
  · simpa [same] using Text.upTo_append_cons spaceless (Text.commaList s.args ++ rest)

theorem IsPlain.isOn_text {s : Statement} (plain : s.IsPlain) : s.IsOn s.text where
  kind := by
    obtain ⟨t, same, _⟩ := s.text_eq_append
    have other : Line.isLabel s.text = false := by
      rw [Bool.eq_false_iff, ne_eq, Line.isLabel_iff]
      rintro ⟨name, _, _, line⟩
      exact plain.not_mem_text (c := ':') (by decide) (by decide) (by decide) (by simp [line])
    have first := plain.upTo_text [] (Or.inl rfl)
    rw [List.append_nil, ← plain.isNormal.code_text] at first
    exact Line.kind_of_word plain.mnemonic same other first
  read := plain.isNormal.read_text

theorem IsPlain.isOn_commented {s : Statement} (plain : s.IsPlain) (remark : Text) :
    s.IsOn (s.text ++ ' ' :: Line.commentMark :: remark) where
  kind := by
    obtain ⟨t, same, _⟩ := s.text_eq_append
    have other : Line.isLabel (s.text ++ ' ' :: Line.commentMark :: remark) = false := by
      rw [Bool.eq_false_iff, ne_eq, Line.isLabel_iff]
      rintro ⟨name, _, chars, line⟩
      have space : ' ' ∈ name ++ [':'] := by simp [← line]
      rcases List.mem_append.mp space with inside | colon
      · exact absurd (chars ' ' inside) (by decide)
      · simp at colon
    have first := plain.upTo_text [' '] (Or.inr rfl)
    rw [← plain.code_commented remark] at first
    exact Line.kind_of_word plain.mnemonic (by rw [same, List.append_assoc]) other first
  read := plain.read_commented remark

end Statement

end SledeCode
