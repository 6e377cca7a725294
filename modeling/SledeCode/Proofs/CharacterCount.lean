import SledeCode.Proofs.AssembledPieces
import SledeCode.Proofs.CharacterBytes

namespace SledeCode

variable {codecs : Codecs}

namespace Chinese

/-- A set that adds pairs of bytes to ASCII writes only ASCII as one byte. -/
theorem length_eq_one_iff_of_pairs {c : Char} {pair : Option Bytes} {bytes : Bytes}
    (two : ∀ both, pair = some both → both.length = 2)
    (written : (match ascii? c with | some single => some single | none => pair) = some bytes) :
    bytes.length = 1 ↔ c.toNat < 0x80 := by
  unfold ascii? at written
  by_cases ascii : c.toNat < 0x80
  · rw [if_pos ascii] at written
    simp [← Option.some.inj written, ascii]
  · rw [if_neg ascii] at written
    simp [two bytes written, ascii]

theorem length_map_twoBytes {code : Option Nat} {both : Bytes} (pair : code.map twoBytes = some both) :
    both.length = 2 := by
  obtain ⟨code, _, rfl⟩ := Option.map_eq_some_iff.mp pair
  rfl

theorem length_gb18030_eq_one_iff (c : Char) : (gb18030 c).length = 1 ↔ c.toNat < 0x80 := by
  unfold gb18030 ascii?
  by_cases ascii : c.toNat < 0x80
  · simp [ascii]
  · simp only [ascii, if_false, iff_false]
    split
    · contradiction
    · rename_i pair
      rw [length_gbkPair? pair]
      decide
    · simp [twoBytes]
    · rename_i pair
      rw [length_privatePair? pair]
      decide
    · simp [fourBytes]

end Chinese

namespace Japanese

theorem isSome_basicByte? (c : Char) : (basicByte? c).isSome = (c.toNat < 0x80 || c == '¥' || c == '‾') := by
  unfold basicByte?
  split
  · simp_all
  · split
    · simp_all
    · split <;> simp_all

theorem isSome_kanaByte? (c : Char) : (kanaByte? c).isSome = (0xFF61 ≤ c.toNat && c.toNat ≤ 0xFF9F) := by
  unfold kanaByte?
  split <;> simp_all

theorem length_shiftJis?_eq_one_iff {c : Char} {bytes : Bytes} (written : shiftJis? c = some bytes) :
    bytes.length = 1 ↔ (basicByte? c).isSome ∨ (kanaByte? c).isSome := by
  unfold shiftJis? at written
  split at written
  · rename_i basic
    simp [← Option.some.inj written, basic]
  · rename_i kana
    simp [← Option.some.inj written, kana]
  · rename_i basic kana
    obtain ⟨code, _, rfl⟩ := Option.map_eq_some_iff.mp written
    simp [basic, kana, shifted]

theorem length_eucJp?_eq_one_iff {c : Char} {bytes : Bytes} (written : eucJp? c = some bytes) :
    bytes.length = 1 ↔ (basicByte? c).isSome := by
  unfold eucJp? at written
  split at written
  · rename_i basic
    simp [← Option.some.inj written, basic]
  · rename_i basic kana
    simp [← Option.some.inj written, basic]
  · rename_i basic kana
    split at written
    · simp [← Option.some.inj written, basic, twoBytes]
    · obtain ⟨code, _, rfl⟩ := Option.map_eq_some_iff.mp written
      simp [basic, twoBytes]

end Japanese

namespace RowSet

/-- The characters that a set writes as one byte: ASCII, in the Japanese sets also the yen sign and the
overline, and in one of these the half-width katakana. -/
def isSingle (s : RowSet) (c : Char) : Bool :=
  c.toNat < 0x80 ||
    match s with
    | .shiftJis => c == '¥' || c == '‾' || (0xFF61 ≤ c.toNat && c.toNat ≤ 0xFF9F)
    | .eucJp => c == '¥' || c == '‾'
    | _ => false

theorem length_eq_one_iff {s : RowSet} {c : Char} {bytes : Bytes} (written : s.encodeChar? c = some bytes) :
    bytes.length = 1 ↔ s.isSingle c = true := by
  cases s with
  | shiftJis =>
    rw [encodeChar?] at written
    rw [Japanese.length_shiftJis?_eq_one_iff written, Japanese.isSome_basicByte?, Japanese.isSome_kanaByte?]
    simp [isSingle, or_assoc]
  | eucJp =>
    rw [encodeChar?] at written
    rw [Japanese.length_eucJp?_eq_one_iff written, Japanese.isSome_basicByte?]
    simp [isSingle, or_assoc]
  | gb2312 =>
    rw [Chinese.length_eq_one_iff_of_pairs (fun both => Chinese.length_map_twoBytes) written]
    simp [isSingle]
  | big5 =>
    rw [Chinese.length_eq_one_iff_of_pairs (fun both => Chinese.length_map_twoBytes) written]
    simp [isSingle]
  | gbk =>
    rw [Chinese.length_eq_one_iff_of_pairs (fun both => Chinese.length_gbkPair?) written]
    simp [isSingle]
  | gb18030 =>
    rw [← Option.some.inj written, Chinese.length_gb18030_eq_one_iff]
    simp [isSingle]

end RowSet

namespace Charset

theorem encodeChar?_of_encodeChars? {cs : Charset} {t : Text} {bytes : Bytes}
    (written : cs.encodeChars? t = some bytes) : ∀ c ∈ t, ∃ part, cs.encodeChar? c = some part := by
  induction t generalizing bytes with
  | nil => simp
  | cons c rest ih =>
    unfold encodeChars? at written
    split at written
    · rename_i part parts first later
      exact List.forall_mem_cons.mpr ⟨⟨part, first⟩, ih later⟩
    · cases written

theorem sizeReplacing_page (p : CodePage) (t : Text) : (Charset.page p).sizeReplacing t = t.length := by
  have one : ∀ c ∈ t, (((Charset.page p).encodeChar? c).map List.length).getD 1 = 1 := by
    intro c _
    simp only [encodeChar?]
    cases p.byte? c <;> rfl
  simp only [sizeReplacing, mark, total_map_eq one, List.length_nil, Nat.zero_add, Nat.one_mul]

/-- A text that a set of rows can write takes one byte per character only if none of its characters
takes more. -/
theorem sizeReplacing_rows_eq_length_iff {r : RowSet} {t : Text} {bytes : Bytes}
    (written : (Charset.rows r).encode? t = some bytes) :
    (Charset.rows r).sizeReplacing t = t.length ↔ ∀ c ∈ t, r.isSingle c = true := by
  obtain ⟨chars, writtenChars, _⟩ := Option.map_eq_some_iff.mp written
  have parts := encodeChar?_of_encodeChars? writtenChars
  have ones : total (t.map fun _ => 1) = t.length := by
    rw [total_map_eq (n := 1) (fun _ _ => rfl), Nat.one_mul]
  have size : (Charset.rows r).sizeReplacing t =
      total (t.map fun c => (((Charset.rows r).encodeChar? c).map List.length).getD 1) := Nat.zero_add _
  rw [size, ← ones, total_map_eq_iff (fun c _ => (Charset.rows r).one_le_charSize c)]
  refine forall₂_congr (fun c inside => ?_)
  obtain ⟨part, here⟩ := parts c inside
  rw [here, Option.map_some, Option.getD_some]
  exact RowSet.length_eq_one_iff here

end Charset

/-- How many characters an operand of a data line stands for: those between the quotes of a string, and
one for a number. -/
def Operand.charCount (arg : Text) : Nat :=
  match string? arg with
  | some t => t.length
  | none => 1

theorem Layout.charCount_le_argSize {s : Settings codecs} (ample : s.codec.IsAmple) (arg : Text) :
    Operand.charCount arg ≤ argSize s arg := by
  unfold argSize Operand.charCount
  cases Operand.string? arg with
  | none => exact Nat.le_refl 1
  | some t => exact Settings.length_le_size ample t

namespace Emission

theorem datum_of_data {e : Emission codecs} {args : List Text} {bytes : Bytes}
    (done : (e.data args).outcome = .ok bytes) : ∀ arg ∈ args, ∃ part, (e.datum arg).outcome = .ok part := by
  induction args generalizing bytes with
  | nil => simp
  | cons arg rest ih =>
    obtain ⟨first, firstDone, later⟩ := Run.bind_eq_ok_iff.mp done
    obtain ⟨others, othersDone, _⟩ := Run.bind_eq_ok_iff.mp later
    exact List.forall_mem_cons.mpr ⟨⟨first, firstDone⟩, ih othersDone⟩

/-- The codec writes every string of a data line that is accepted. -/
theorem exists_written {s : Settings codecs} {labels : LabelTable} {args : List Text} {bytes : Bytes}
    (accepted : ((s.emission labels).data args).outcome = .ok bytes) {arg : Text} (member : arg ∈ args)
    {t : Text} (content : Operand.string? arg = some t) : ∃ written, s.codec.encode t = .ok written := by
  obtain ⟨part, done⟩ := datum_of_data accepted arg member
  rcases datumIn_eq_ok_iff.mp done with ⟨u, codec, same, found, written⟩ | ⟨unquoted, _⟩
  · cases content.symm.trans same
    cases s.found.symm.trans found
    exact ⟨part, written⟩
  · rw [Operand.string?_of_not_isString unquoted] at content
    cases content

end Emission

/-- If the codec writes the string that an operand is, it does so in as many bytes as it has characters. -/
def Codec.SpendsBytePerChar (codec : Codec) (arg : Text) : Prop :=
  ∀ t written, Operand.string? arg = some t → codec.encode t = .ok written → written.length = t.length

/-- What a codec writes for a string has the size that was found for it. -/
theorem Settings.size_of_written {s : Settings codecs} {t : Text} {written : Bytes}
    (done : s.codec.encode t = .ok written) : s.size t = written.length := by
  have sized := s.lawful.faithful t written done
  rw [s.sizeReplacing_codec] at sized
  exact Except.ok.inj sized

theorem CodeRun.not_mem_ofString {c : Char} {chars : List Char} (absent : c ∉ chars) (first : Nat) :
    c ∉ (CodeRun.ofString (first, String.ofList chars)).chars := by
  rw [CodeRun.ofString, String.toList_ofList]
  exact absent

theorem CodeRun.find?_eq_none {runs : List CodeRun} {c : Char} (absent : ∀ r ∈ runs, c ∉ r.chars) :
    CodeRun.find? runs c = none := by
  rw [CodeRun.find?, List.findSome?_eq_none_iff]
  intro r member
  rw [List.idxOf?_eq_none_iff.mpr (absent r member)]
  rfl

theorem CodeTable.code?_eq_none {t : CodeTable} {c : Char} (early : c.toNat < firstIdeograph)
    (absent : ∀ r ∈ t.signs, c ∉ r.chars) : t.code? c = none := by
  rw [code?, CodeRun.find?_eq_none absent]
  exact if_neg (Nat.not_le.mpr early)

set_option maxRecDepth 2000 in
/-- The samples beyond ASCII are no signs of the basic Japanese set. -/
theorem CodeTable.jis0208_lacks_samples : ∀ c ∈ ['æ', '€'], ∀ r ∈ jis0208.signs, c ∉ r.chars := by
  intro c sample
  unfold jis0208 ofStrings
  simp only [List.map_cons, List.map_nil, List.forall_mem_cons, List.not_mem_nil, false_implies,
    implies_true, and_true]
  simp only [List.mem_cons, List.not_mem_nil, or_false] at sample
  rcases sample with rfl | rfl
  · and_intros <;> exact CodeRun.not_mem_ofString (by decide +kernel) _
  · and_intros <;> exact CodeRun.not_mem_ofString (by decide +kernel) _

theorem Encoding.spendsOneByte_shiftJis : (Encoding.charset (.rows .shiftJis)).codec.spendsOneByte = .ok true := by
  have beyond : ∀ c ∈ ['æ', '€'], Japanese.basicByte? c = none ∧ Japanese.kanaByte? c = none ∧
      c.toNat < CodeTable.firstIdeograph := by
    rw [List.forall_mem_cons, List.forall_mem_singleton]
    decide
  have has : (Encoding.charset (.rows .shiftJis)).codec.encode ['A'] = .ok [0x41] := by decide
  refine Codec.spendsOneByte_of_isNarrowOn has fun c sample => Or.inl ?_
  obtain ⟨basic, kana, early⟩ := beyond c sample
  have code := CodeTable.code?_eq_none early (CodeTable.jis0208_lacks_samples c sample)
  simp [codec, encode, Charset.encode?, Charset.encodeChars?, Charset.encodeChar?, RowSet.encodeChar?,
    Japanese.shiftJis?, basic, kana, code]

namespace Settings

/-- An operand that is accepted has a size of one byte per character exactly if the codec says so. -/
theorem argSize_eq_charCount_iff {s : Settings codecs} {labels : LabelTable} {args : List Text} {bytes : Bytes}
    (accepted : ((s.emission labels).data args).outcome = .ok bytes) {arg : Text} (member : arg ∈ args) :
    Layout.argSize s arg = Operand.charCount arg ↔ s.codec.SpendsBytePerChar arg := by
  unfold Layout.argSize Operand.charCount Codec.SpendsBytePerChar
  cases content : Operand.string? arg with
  | none => simp
  | some t =>
    obtain ⟨written, done⟩ := Emission.exists_written accepted member content
    dsimp only
    rw [size_of_written done]
    constructor
    · rintro same _ again ⟨⟩ done'
      rw [← size_of_written done', size_of_written done, same]
    · intro each
      exact each t written rfl done

theorem length_of_spendsBytePerChar {s : Settings codecs} {labels : LabelTable} {args : List Text} {bytes : Bytes}
    (accepted : ((s.emission labels).data args).outcome = .ok bytes)
    (each : ∀ arg ∈ args, s.codec.SpendsBytePerChar arg) : bytes.length = total (args.map Operand.charCount) := by
  rw [Emission.length_data accepted, Layout.dataSize]
  exact congrArg total (List.map_congr_left fun arg member =>
    (argSize_eq_charCount_iff accepted member).mpr (each arg member))

theorem spendsBytePerChar_of_length {s : Settings codecs} {labels : LabelTable} {args : List Text} {bytes : Bytes}
    (ample : s.codec.IsAmple) (accepted : ((s.emission labels).data args).outcome = .ok bytes)
    (length : bytes.length = total (args.map Operand.charCount)) : ∀ arg ∈ args, s.codec.SpendsBytePerChar arg := by
  rw [Emission.length_data accepted, Layout.dataSize,
    total_map_eq_iff (fun arg _ => Layout.charCount_le_argSize ample arg)] at length
  exact fun arg member => (argSize_eq_charCount_iff accepted member).mp (length arg member)

theorem spendsBytePerChar_page {s : Settings codecs} {p : CodePage}
    (page : s.codec = (Encoding.charset (.page p)).codec) (arg : Text) : s.codec.SpendsBytePerChar arg := by
  intro t written _ done
  rw [page] at done
  rw [Charset.length_encode? (Encoding.encode_charset_eq_ok_iff.mp done), Charset.sizeReplacing_page]

theorem spendsBytePerChar_rows_iff {s : Settings codecs} {r : RowSet}
    (rows : s.codec = (Encoding.charset (.rows r)).codec) {labels : LabelTable} {args : List Text} {bytes : Bytes}
    (accepted : ((s.emission labels).data args).outcome = .ok bytes) {arg : Text} (member : arg ∈ args) :
    s.codec.SpendsBytePerChar arg ↔ ∀ t, Operand.string? arg = some t → ∀ c ∈ t, r.isSingle c = true := by
  have single {t : Text} {written : Bytes} (done : s.codec.encode t = .ok written) :
      written.length = t.length ↔ ∀ c ∈ t, r.isSingle c = true := by
    rw [rows] at done
    have encoded := Encoding.encode_charset_eq_ok_iff.mp done
    rw [Charset.length_encode? encoded]
    exact Charset.sizeReplacing_rows_eq_length_iff encoded
  constructor
  · intro each t content
    obtain ⟨written, done⟩ := Emission.exists_written accepted member content
    exact (single done).mp (each t written content done)
  · intro singles t written content done
    exact (single done).mpr (singles t content)

/-- Whatever settings there are, and whatever codec they have: all data that they accept takes one byte per
character exactly if the codec writes every string in as many bytes as it has characters. If the codec
spends a byte or more on each character, the same holds for each data line and its own strings. A code page
always spends one byte, and a set of rows does for the characters that it writes as one byte. -/
theorem one_byte_per_character_iff (s : Settings codecs) :
    ((∀ labels args bytes, ((s.emission labels).data args).outcome = .ok bytes →
        bytes.length = total (args.map Operand.charCount)) ↔ ∀ arg, s.codec.SpendsBytePerChar arg) ∧
    ∀ labels args bytes, ((s.emission labels).data args).outcome = .ok bytes →
      (s.codec.IsAmple → (bytes.length = total (args.map Operand.charCount) ↔
        ∀ arg ∈ args, s.codec.SpendsBytePerChar arg)) ∧
      (∀ p, s.codec = (Encoding.charset (.page p)).codec → bytes.length = total (args.map Operand.charCount)) ∧
      ∀ r, s.codec = (Encoding.charset (.rows r)).codec → (bytes.length = total (args.map Operand.charCount) ↔
        ∀ arg ∈ args, ∀ t, Operand.string? arg = some t → ∀ c ∈ t, r.isSingle c = true) := by
  constructor
  · constructor
    · intro always arg t written content done
      have alone : ((s.emission .empty).data [arg]).outcome = .ok (written ++ []) :=
        Run.bind_ok (Emission.datumIn_eq_ok_iff.mpr (Or.inl ⟨t, _, content, s.found, done⟩)) rfl
      simpa [total, Operand.charCount, content] using always _ _ _ alone
    · intro each labels args bytes accepted
      exact length_of_spendsBytePerChar accepted fun arg _ => each arg
  · intro labels args bytes accepted
    have own (ample : s.codec.IsAmple) : bytes.length = total (args.map Operand.charCount) ↔
        ∀ arg ∈ args, s.codec.SpendsBytePerChar arg :=
      ⟨spendsBytePerChar_of_length ample accepted, length_of_spendsBytePerChar accepted⟩
    refine ⟨own, fun p page => ?_, fun r rows => ?_⟩
    · exact length_of_spendsBytePerChar accepted fun arg _ => spendsBytePerChar_page page arg
    · exact (own (rows ▸ Encoding.isAmple_charset _)).trans
        (forall₂_congr fun arg member => spendsBytePerChar_rows_iff rows accepted member)

/-- Settings are what their own options give. -/
theorem ofOptions_toOptions (s : Settings codecs) : ofOptions codecs s.toOptions = .ok s := by
  unfold ofOptions
  split
  · rename_i codec found
    cases s.found.symm.trans found
    split
    · rfl
    · rename_i fails
      cases s.oneByte.symm.trans fails
    · rename_i fails
      cases s.oneByte.symm.trans fails
  · rename_i null
    cases s.found.symm.trans null
  · rename_i unknown
    cases s.found.symm.trans unknown

/-- Shift JIS passes for one byte per character. -/
def shiftJis : Settings .standard where
  strictLabels := true
  legacySizing := false
  encodingName := "shift_jis".toList
  codec := (Encoding.charset (.rows .shiftJis)).codec
  found :=
    have named : Encoding.find "shift_jis".toList = .ok (.charset (.rows .shiftJis)) := rfl
    Encoding.registry_eq_ok_iff.mpr ⟨_, named, rfl⟩
  oneByte := Encoding.spendsOneByte_shiftJis

/-- Half-width katakana and the yen sign take one byte each in Shift JIS, and so does a number. -/
theorem one_byte_per_character_kana :
    ofOptions .standard ⟨true, false, "shift_jis".toList⟩ = .ok shiftJis ∧
      ((shiftJis.emission .empty).data ["'ｱ¥b'".toList, "7".toList]).outcome = .ok [0xB1, 0x5C, 0x62, 7] ∧
      [0xB1, 0x5C, 0x62, 7].length = total (["'ｱ¥b'".toList, "7".toList].map Operand.charCount) := by
  have accepted : ((shiftJis.emission .empty).data ["'ｱ¥b'".toList, "7".toList]).outcome =
      .ok [0xB1, 0x5C, 0x62, 7] := by decide +kernel
  refine ⟨shiftJis.ofOptions_toOptions, accepted,
    (((one_byte_per_character_iff shiftJis).2 _ _ _ accepted).2.2 .shiftJis rfl).mpr ?_⟩
  rw [List.forall_mem_cons, List.forall_mem_singleton]
  constructor
  · intro t content
    have quoted : Operand.string? "'ｱ¥b'".toList = some "ｱ¥b".toList := by decide
    rw [quoted] at content
    cases content
    exact List.all_eq_true.mp (by decide)
  · intro t content
    have plain : Operand.string? "7".toList = none := by decide
    rw [plain] at content
    cases content

/-- The ideographic comma takes two bytes in Shift JIS, although it is one character. -/
theorem two_bytes_for_one_character :
    ofOptions .standard ⟨true, false, "shift_jis".toList⟩ = .ok shiftJis ∧
      ((shiftJis.emission .empty).data ["'、'".toList]).outcome = .ok [0x81, 0x41] ∧
      total (["'、'".toList].map Operand.charCount) = 1 :=
  ⟨shiftJis.ofOptions_toOptions, by decide +kernel, by decide⟩

end Settings

end SledeCode
