import SledeCode.Proofs.LiteralGrammar
import SledeCode.Proofs.ListedCells
import SledeCode.Proofs.StatementAgreement

namespace SledeCode

variable {codecs : Codecs}

namespace Text

/-- The text without its spaces; other blanks stay. -/
def withoutSpaces (t : Text) : Text := t.filter (· != ' ')

theorem withoutSpaces_subset (t : Text) : withoutSpaces t ⊆ t := List.filter_subset_self t

theorem space_not_mem_withoutSpaces (t : Text) : ' ' ∉ withoutSpaces t := by
  simp [withoutSpaces]

theorem withoutSpaces_of_not_mem {t : Text} (spaceless : ' ' ∉ t) : withoutSpaces t = t :=
  List.filter_eq_self.mpr (bne_of_not_mem spaceless)

theorem withoutSpaces_inQuotes (t : Text) : withoutSpaces (inQuotes t) = inQuotes (withoutSpaces t) := by
  simp [withoutSpaces, inQuotes, apostrophe]

/-- Blanks inside quotes are not around them. -/
theorem trim_inQuotes (t : Text) : trim (inQuotes t) = inQuotes t := by
  have solid : isBlank apostrophe = false := by decide
  rw [inQuotes, trim, List.cons_append, trimLeft_cons solid]
  exact trimRight_append_cons solid (apostrophe :: t) []

theorem isWordChar_of_isHexDigit {c : Char} (hex : isHexDigit c = true) : isWordChar c = true := by
  have range : (48 ≤ c.toNat ∧ c.toNat ≤ 57) ∨ (97 ≤ c.toNat ∧ c.toNat ≤ 102) ∨ (65 ≤ c.toNat ∧ c.toNat ≤ 70) := by
    simp only [isHexDigit, Bool.or_eq_true, Bool.and_eq_true, decide_eq_true_eq, Char.isDigit_iff_toNat, Char.le_def,
      UInt32.le_iff_toNat_le, or_assoc] at hex
    exact hex
  have solid : isBlank c = false := by
    simp only [isBlank, Bool.or_eq_false_iff, Bool.and_eq_false_iff, decide_eq_false_iff_not, beq_eq_false_iff_ne]
    omega
  have other {d : Char} (none : isHexDigit d = false) : (c != d) = true := by
    rw [bne_iff_ne]
    rintro rfl
    exact Bool.noConfusion (none.symm.trans hex)
  simp only [isWordChar, solid, other (d := ',') (by decide), other (d := ';') (by decide),
    other (d := ':') (by decide), Bool.not_false, Bool.and_true]

/-- A hexadecimal literal is a word. -/
theorem isWord_hexadecimal {digits : Text} (hex : digits.all isHexDigit = true) : IsWord ('0' :: 'x' :: digits) := by
  refine isWord_cons (by decide) (List.forall_mem_cons.mpr ⟨by decide, fun c member => ?_⟩)
  exact isWordChar_of_isHexDigit (List.all_eq_true.mp hex c member)

end Text

/-- What stands between two commas of a data line: a byte in two hexadecimal digits, or a text in
quotes, with nothing in it that ends the quotes, the operand or the statement. -/
inductive DataItem where
  | byte (b : UInt8) (digits : Text) (two : digits.length = 2) (hex : digits.all Text.isHexDigit = true)
      (value : Text.positional 16 digits = b.toNat)
  | text (t : Text) (plain : ∀ c ∈ [Text.apostrophe, ',', Line.commentMark], c ∉ t)

namespace DataItem

def written : DataItem → Text
  | .byte _ digits _ _ _ => '0' :: 'x' :: digits
  | .text t _ => Text.inQuotes t

/-- The data line with these items. -/
def line (items : List DataItem) : Text := dataWord ++ ' ' :: Text.commaList (items.map written)

/-- The bytes of an item: a byte itself, and of a text what is left without its spaces, which must
be something, under a codec. -/
inductive Gives (codec : Codec) : DataItem → Bytes → Prop
  | byte {b : UInt8} {digits : Text} {two hex value} : Gives codec (.byte b digits two hex value) [b]
  | text {t : Text} {plain} {bytes : Bytes} :
      Text.withoutSpaces t ≠ [] → codec.encode (Text.withoutSpaces t) = .ok bytes → Gives codec (.text t plain) bytes

/-- Why an item has no bytes: its text has spaces only, or a character that the codec lacks. -/
inductive Lacks (s : Settings codecs) : DataItem → Cause → Prop
  | content {t : Text} {plain} :
      Text.withoutSpaces t = [] →
      Lacks s (.text t plain) (.badData (Text.inQuotes []) "unterminated or empty string".toList)
  | character {t : Text} {plain} :
      Text.withoutSpaces t ≠ [] → s.codec.encode (Text.withoutSpaces t) = .error .unrepresentable →
      Lacks s (.text t plain)
        (.badData (Text.inQuotes (Text.withoutSpaces t)) ("not representable in ".toList ++ s.encodingName))

theorem not_mem_written {item : DataItem} {c : Char} (listed : c ∈ [',', Line.commentMark]) : c ∉ item.written := by
  have punctuation : Text.isWordChar c = false ∧ c ≠ Text.apostrophe := by
    rw [List.mem_cons, List.mem_singleton] at listed
    rcases listed with rfl | rfl <;> decide
  cases item with
  | byte b digits two hex value => exact (Text.isWord_hexadecimal hex).not_mem punctuation.1
  | text t plain =>
    have free : c ∉ t := plain c (List.mem_cons_of_mem _ listed)
    simp [written, Text.inQuotes, punctuation.2, free]

theorem written_ne_nil (item : DataItem) : item.written ≠ [] := by
  cases item <;> simp [written, Text.inQuotes]

theorem trim_written (item : DataItem) : Text.trim item.written = item.written := by
  cases item with
  | byte b digits two hex value => exact (Text.isWord_hexadecimal hex).trim_eq
  | text t plain => exact Text.trim_inQuotes t

/-- What is read of an item: its text without spaces. -/
def operand (item : DataItem) : Text := Text.withoutSpaces item.written

theorem operand_byte {b : UInt8} {digits : Text} {two : digits.length = 2} {hex : digits.all Text.isHexDigit = true}
    {value : Text.positional 16 digits = b.toNat} :
    (DataItem.byte b digits two hex value).operand = '0' :: 'x' :: digits :=
  Text.withoutSpaces_of_not_mem ((Text.isWord_hexadecimal hex).not_mem (by decide))

theorem operand_text {t : Text} {plain : ∀ c ∈ [Text.apostrophe, ',', Line.commentMark], c ∉ t} :
    (DataItem.text t plain).operand = Text.inQuotes (Text.withoutSpaces t) :=
  Text.withoutSpaces_inQuotes t

theorem isOperand_operand (item : DataItem) : Statement.IsOperand item.operand := by
  cases item with
  | byte b digits two hex value =>
    rw [operand_byte]
    exact Statement.isOperand_of_isWord (Text.isWord_hexadecimal hex)
  | text t plain =>
    have free {c : Char} (listed : c ∈ [',', Line.commentMark]) : c ∉ (DataItem.text t plain).operand :=
      fun member => not_mem_written listed (Text.withoutSpaces_subset _ member)
    refine ⟨?_, ?_, Text.space_not_mem_withoutSpaces _, free (by simp), free (by simp)⟩
    · simp [operand_text, Text.inQuotes]
    · rw [operand_text, Text.trim_inQuotes]

theorem trim_line {items : List DataItem} (nonempty : items ≠ []) : Text.trim (line items) = line items := by
  have some : items.map written ≠ [] := by simpa using nonempty
  obtain ⟨last, _, ends⟩ := List.mem_map.mp (List.getLast_mem some)
  obtain ⟨front, joined⟩ := Text.intercalate_ends [',', ' '] some
  have shape : line items = dataWord ++ ' ' :: front ++ last.written := by
    rw [line, Text.commaList, joined, ends, List.append_assoc, List.cons_append]
  rw [line, Text.trim_append Line.isWord_dataWord.nonempty Line.isWord_dataWord.trim_eq, ← line, shape]
  exact Text.trimRight_append last.written_ne_nil last.trim_written _

theorem mark_not_mem_line (items : List DataItem) : Line.commentMark ∉ line items := by
  intro member
  rcases List.mem_append.mp member with inside | later
  · exact absurd inside (by decide)
  rcases List.mem_cons.mp later with same | later
  · exact absurd same (by decide)
  rcases Text.mem_commaList later with ⟨t, listed, inside⟩ | same | same
  · obtain ⟨item, _, rfl⟩ := List.mem_map.mp listed
    exact not_mem_written (by simp) inside
  · exact absurd same (by decide)
  · exact absurd same (by decide)

/-- The line is read as its items without their spaces: nothing else in them is lost or taken for
punctuation. -/
theorem isOn_line {items : List DataItem} (nonempty : items ≠ []) :
    Statement.IsOn ⟨dataWord, items.map operand⟩ (line items) := by
  have code : Line.code (line items) = line items := by
    rw [Line.code, trim_line nonempty, Text.upTo_of_not_mem (mark_not_mem_line items)]
  have space : ' ' ∉ dataWord := Line.isWord_dataWord.not_mem (by decide)
  constructor
  · refine Line.kind_of_word Line.isWord_dataWord rfl rfl ?_
    rw [code]
    exact Text.upTo_append_cons space _
  · refine Statement.read_eq ?_ _ code ?_
    · refine ⟨Line.isWord_dataWord.trim_eq, space, Line.isWord_dataWord.not_mem (by decide), ?_, ?_⟩
      · rw [List.forall_mem_map]
        exact fun item _ => item.isOperand_operand
      · exact fun empty => absurd empty Line.isWord_dataWord.nonempty
    · rw [Text.filter_commaList_map, List.map_map]
      rfl

end DataItem

theorem Operand.string?_inQuotes {t : Text} (nonempty : t ≠ []) (unquoted : Text.apostrophe ∉ t) :
    string? (Text.inQuotes t) = some t := by
  have body : Text.upTo Text.apostrophe (t ++ [Text.apostrophe]) = t := Text.upTo_append_cons unquoted []
  simp [string?, Text.inQuotes, body, nonempty]

namespace Emission

/-- The outcome for the operands of a data line is made of their own outcomes. -/
theorem outcome_dataIn (find : Encoding.Registry) (name : Text) (args : List Text) :
    (dataIn find name args).outcome =
      (args.mapM fun arg => (datumIn find name arg).outcome).map List.flatten := by
  induction args with
  | nil => rfl
  | cons arg rest ih =>
    rw [dataIn, Run.outcome_bind]
    cases here : (datumIn find name arg).outcome with
    | error f =>
      rw [mapM_cons_of_error (fun arg => (datumIn find name arg).outcome) here]
      rfl
    | ok bytes =>
      rw [mapM_cons_of_ok (fun arg => (datumIn find name arg).outcome) here, Assembly.flatten_cons, ← ih]
      dsimp only [Except.bind]
      rw [Run.outcome_bind]
      cases (dataIn find name rest).outcome <;> rfl

end Emission

namespace DataItem

variable {s : Settings codecs} {item : DataItem}

/-- What encoding an item gives. -/
def outcome (s : Settings codecs) (item : DataItem) : Except Failure Bytes :=
  (Emission.datumIn codecs.find s.encodingName item.operand).outcome

theorem gives_or_lacks (s : Settings codecs) (item : DataItem) :
    (∃ bytes, item.Gives s.codec bytes) ∨ ∃ cause, item.Lacks s cause := by
  cases item with
  | byte b digits two hex value => exact Or.inl ⟨[b], .byte⟩
  | text t plain =>
    by_cases empty : Text.withoutSpaces t = []
    · exact Or.inr ⟨_, .content empty⟩
    · cases written : s.codec.encode (Text.withoutSpaces t) with
      | ok bytes => exact Or.inl ⟨bytes, .text empty written⟩
      | error refusal =>
        rw [s.lawful.refusal _ _ written] at written
        exact Or.inr ⟨_, .character empty written⟩

theorem string?_operand_text {t : Text} {plain : ∀ c ∈ [Text.apostrophe, ',', Line.commentMark], c ∉ t}
    (content : Text.withoutSpaces t ≠ []) :
    Operand.string? (DataItem.text t plain).operand = some (Text.withoutSpaces t) := by
  rw [operand_text]
  exact Operand.string?_inQuotes content (fun member =>
    plain Text.apostrophe (by simp) (Text.withoutSpaces_subset t member))

theorem Gives.outcome_eq {bytes : Bytes} (gives : item.Gives s.codec bytes) : item.outcome s = .ok bytes := by
  refine Emission.datumIn_eq_ok_iff.mpr ?_
  cases gives with
  | @byte b digits two hex value =>
    refine Or.inr ⟨by rw [operand_byte]; rfl, b, ?_, rfl⟩
    have nonempty : digits ≠ [] := List.ne_nil_of_length_pos (by omega)
    rw [operand_byte, Operand.value?_of_hexadecimal ⟨nonempty, hex⟩, value]
  | text content written =>
    exact Or.inl ⟨_, _, string?_operand_text content, s.found, written⟩

theorem Lacks.outcome_eq {cause : Cause} (lacks : item.Lacks s cause) :
    item.outcome s = .error (.ofCause cause) := by
  cases lacks with
  | @content t plain empty =>
    rw [outcome, operand_text, empty]
    rfl
  | @character t plain content missing =>
    rw [outcome, Emission.datumIn, if_pos (by rw [operand_text]; rfl), string?_operand_text content]
    have found : Run.ofOutcome ((codecs.find s.encodingName).mapError Failure.encoding) = pure s.codec := by
      rw [s.found]
      rfl
    simp only [found, pure_bind, missing, operand_text, Run.outcome_fail]

theorem outcome_eq_ok_iff {bytes : Bytes} : item.outcome s = .ok bytes ↔ item.Gives s.codec bytes := by
  refine ⟨fun done => ?_, Gives.outcome_eq⟩
  rcases gives_or_lacks s item with ⟨found, gives⟩ | ⟨cause, lacks⟩
  · exact Except.ok.inj (gives.outcome_eq.symm.trans done) ▸ gives
  · cases lacks.outcome_eq.symm.trans done

theorem outcome_eq_error_iff {f : Failure} :
    item.outcome s = .error f ↔ ∃ cause, item.Lacks s cause ∧ f = .ofCause cause := by
  constructor
  · intro failed
    rcases gives_or_lacks s item with ⟨bytes, gives⟩ | ⟨cause, lacks⟩
    · cases gives.outcome_eq.symm.trans failed
    · exact ⟨cause, lacks, Except.error.inj (failed.symm.trans lacks.outcome_eq)⟩
  · rintro ⟨cause, lacks, rfl⟩
    exact lacks.outcome_eq

theorem failsFirst_outcome_iff {items : List DataItem} {k : Nat} {f : Failure} :
    FailsFirst (outcome s) items k item f ↔
      items[k]? = some item ∧ (∃ cause, item.Lacks s cause ∧ f = .ofCause cause) ∧
        ∀ earlier ∈ items.take k, ∃ bytes, earlier.Gives s.codec bytes := by
  rw [← outcome_eq_error_iff]
  simp only [← outcome_eq_ok_iff]
  exact ⟨fun first => ⟨first.found, first.fails, first.earlier⟩, fun ⟨found, fails, earlier⟩ => ⟨found, fails, earlier⟩⟩

theorem Lacks.locate_eq {cause : Cause} (lacks : item.Lacks s cause) (place : Location) (raw : Text) :
    (Failure.ofCause cause).locate place raw = .diagnostic ⟨cause, none, some place, some raw⟩ := by
  cases lacks <;> rfl

/-- A data line is encoded item by item, and the first failure is put in its place. -/
theorem outcome_statement (s : Settings codecs) (items : List DataItem) :
    (Assembly.statement s (line items)).outcome =
      ((items.mapM (outcome s)).map List.flatten).mapError
        (Failure.locate ⟨"<statement>".toList, 1, 0⟩ (line items)) := by
  cases items with
  | nil => rfl
  | cons item rest =>
    have nonempty := List.cons_ne_nil item rest
    have trimmed := trim_line nonempty
    obtain ⟨kind, read⟩ := isOn_line nonempty
    have isRecord : (Line.kind (Text.trim (line (item :: rest)))).isRecord = true := by
      rw [trimmed, kind]
      rfl
    have data : ((s.emission .empty).encode ⟨dataWord, (item :: rest).map operand⟩).outcome =
        ((item :: rest).mapM (outcome s)).map List.flatten := by
      rw [Emission.encode, if_pos rfl, Emission.data, Emission.outcome_dataIn, List.mapM_map]
      rfl
    rw [Assembly.statement_of_isRecord isRecord, Assembly.emitRecord, trimmed, read, Run.mapFailure, data]
    rfl

end DataItem

/-- A data line gives the bytes of its items in order. Of a text these are the bytes of what is left
without its spaces; every other character in it is kept, also blanks at its ends. The line fails
exactly if an item has no bytes, and for what the first of these lacks. -/
theorem Assembly.data_line_gives_its_items (s : Settings codecs) (items : List DataItem) :
    (∀ bytes, (statement s (DataItem.line items)).outcome = .ok bytes ↔
      ∃ parts, List.Forall₂ (DataItem.Gives s.codec) items parts ∧ bytes = parts.flatten) ∧
    ∀ f, (statement s (DataItem.line items)).outcome = .error f ↔
      ∃ k item cause, items[k]? = some item ∧ item.Lacks s cause ∧
        (∀ earlier ∈ items.take k, ∃ bytes, earlier.Gives s.codec bytes) ∧
        f = .diagnostic ⟨cause, none, some ⟨"<statement>".toList, 1, 0⟩, some (DataItem.line items)⟩ := by
  rw [DataItem.outcome_statement]
  constructor
  · intro bytes
    rw [mapError_eq_ok_iff, map_eq_ok_iff]
    simp only [mapM_eq_ok_iff, DataItem.outcome_eq_ok_iff, eq_comm (a := bytes)]
  · intro f
    simp only [mapError_eq_error_iff, map_eq_error_iff, mapM_eq_error_iff, DataItem.failsFirst_outcome_iff]
    constructor
    · rintro ⟨_, ⟨k, item, found, ⟨cause, lacks, rfl⟩, earlier⟩, rfl⟩
      exact ⟨k, item, cause, found, lacks, earlier, lacks.locate_eq _ _⟩
    · rintro ⟨k, item, cause, found, lacks, earlier, rfl⟩
      exact ⟨.ofCause cause, ⟨k, item, found, ⟨cause, lacks, rfl⟩, earlier⟩, (lacks.locate_eq _ _).symm⟩

example : (Assembly.statement .standard ".DATA 0x0A, ' h\tei '".toList).outcome = .ok [10, 104, 9, 101, 105] := by
  decide +kernel

end SledeCode
