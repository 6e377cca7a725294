import SledeCode.Text.Utf8

namespace SledeCode.Utf8

theorem continues_iff {b : UInt8} : continues b = true ↔ 0x80 ≤ b.toNat ∧ b.toNat ≤ 0xBF := by
  simp only [continues, Bool.and_eq_true, decide_eq_true_eq, UInt8.le_iff_toNat_le]
  rfl

/-- The second bytes that are allowed: fewer of them after the four first bytes at the ends of ranges. -/
theorem continuesAfter_of_range {first b : UInt8} (range : 0x80 ≤ b.toNat ∧ b.toNat ≤ 0xBF)
    (overlong : first.toNat = 0xE0 → 0xA0 ≤ b.toNat) (surrogate : first.toNat = 0xED → b.toNat ≤ 0x9F)
    (overlongest : first.toNat = 0xF0 → 0x90 ≤ b.toNat) (last : first.toNat = 0xF4 → b.toNat ≤ 0x8F) :
    continuesAfter first b = true := by
  have byte (n : UInt8) : first = n ↔ first.toNat = n.toNat := UInt8.toNat_inj.symm
  simp only [continuesAfter, byte]
  split
  · rename_i lead
    simpa [UInt8.le_iff_toNat_le] using And.intro (overlong lead) range.2
  · split
    · rename_i lead
      simpa [UInt8.le_iff_toNat_le] using And.intro range.1 (surrogate lead)
    · split
      · rename_i lead
        simpa [UInt8.le_iff_toNat_le] using And.intro (overlongest lead) range.2
      · split
        · rename_i lead
          simpa [UInt8.le_iff_toNat_le] using And.intro range.1 (last lead)
        · exact continues_iff.mpr range

/-- The tests that the first byte of a longer sequence passes. -/
theorem lead_tests (b : UInt8) (lead : 0xC2 ≤ b.toNat ∧ b.toNat ≤ 0xF4) :
    ¬ b < 0x80 ∧ ¬ (b < 0xC2 || 0xF4 < b) = true := by
  simp only [Bool.or_eq_true, decide_eq_true_eq, UInt8.lt_iff_toNat_lt]
  change ¬ b.toNat < 0x80 ∧ ¬ (b.toNat < 0xC2 ∨ 0xF4 < b.toNat)
  omega

section Sequences

variable {b0 b1 b2 b3 : UInt8} (position : Nat) (rest : Bytes)

theorem decodeFrom_one (lead : b0.toNat < 0x80) :
    decodeFrom position (b0 :: rest) = (assembled b0.toNat [] :: ·) <$> decodeFrom (position + 1) rest := by
  have ascii : b0 < 0x80 := UInt8.lt_iff_toNat_lt.mpr lead
  rw [decodeFrom.eq_def]
  simp only [if_pos ascii]

theorem decodeFrom_two (lead : 0xC2 ≤ b0.toNat ∧ b0.toNat < 0xE0) (second : continuesAfter b0 b1 = true) :
    decodeFrom position (b0 :: b1 :: rest) =
      (assembled (b0.toNat - 0xC0) [b1] :: ·) <$> decodeFrom (position + 2) rest := by
  obtain ⟨notAscii, started⟩ := lead_tests b0 (by omega)
  have two : b0 < 0xE0 := UInt8.lt_iff_toNat_lt.mpr lead.2
  rw [decodeFrom.eq_def]
  simp only [if_neg notAscii, if_neg started, second, Bool.not_true, Bool.false_eq_true, if_false, if_pos two]

theorem decodeFrom_three (lead : 0xE0 ≤ b0.toNat ∧ b0.toNat < 0xF0) (second : continuesAfter b0 b1 = true)
    (third : continues b2 = true) :
    decodeFrom position (b0 :: b1 :: b2 :: rest) =
      (assembled (b0.toNat - 0xE0) [b1, b2] :: ·) <$> decodeFrom (position + 3) rest := by
  obtain ⟨notAscii, started⟩ := lead_tests b0 (by omega)
  have notTwo : ¬ b0 < 0xE0 := fun two => Nat.not_lt.mpr lead.1 (UInt8.lt_iff_toNat_lt.mp two)
  have three : b0 < 0xF0 := UInt8.lt_iff_toNat_lt.mpr lead.2
  rw [decodeFrom.eq_def]
  simp only [if_neg notAscii, if_neg started, second, third, Bool.not_true, Bool.false_eq_true, if_false,
    if_neg notTwo, if_pos three]

theorem decodeFrom_four (lead : 0xF0 ≤ b0.toNat ∧ b0.toNat ≤ 0xF4) (second : continuesAfter b0 b1 = true)
    (third : continues b2 = true) (fourth : continues b3 = true) :
    decodeFrom position (b0 :: b1 :: b2 :: b3 :: rest) =
      (assembled (b0.toNat - 0xF0) [b1, b2, b3] :: ·) <$> decodeFrom (position + 4) rest := by
  obtain ⟨notAscii, started⟩ := lead_tests b0 (by omega)
  have notThree : ¬ b0 < 0xF0 := fun three => Nat.not_lt.mpr lead.1 (UInt8.lt_iff_toNat_lt.mp three)
  have notTwo : ¬ b0 < 0xE0 := fun two =>
    Nat.not_lt.mpr (Nat.le_trans (by decide) lead.1) (UInt8.lt_iff_toNat_lt.mp two)
  rw [decodeFrom.eq_def]
  simp only [if_neg notAscii, if_neg started, second, third, fourth, Bool.not_true, Bool.false_eq_true, if_false,
    if_neg notTwo, if_neg notThree]

end Sequences

theorem toNat_tail (n : Nat) : (UInt8.ofNat (0x80 + n % 64)).toNat = 0x80 + n % 64 :=
  UInt8.toNat_ofNat_of_lt (show 0x80 + n % 64 < 256 by omega)

theorem continues_tail (n : Nat) : continues (UInt8.ofNat (0x80 + n % 64)) = true := by
  rw [continues_iff, toNat_tail]
  omega

/-- A character is read from its own bytes, whatever follows them. -/
theorem decodeFrom_encodeChar (position : Nat) (c : Char) (rest : Bytes) :
    decodeFrom position (encodeChar c ++ rest) =
      (c :: ·) <$> decodeFrom (position + (encodeChar c).length) rest := by
  have valid : c.toNat < 0xD800 ∨ 0xDFFF < c.toNat ∧ c.toNat < 0x110000 := c.valid
  have number {payload : Nat} {tail : Bytes}
      (same : tail.foldl (fun n b => 64 * n + (b.toNat - 0x80)) payload = c.toNat) : assembled payload tail = c := by
    rw [assembled, same, Char.ofNat_toNat]
  unfold encodeChar
  dsimp only
  -- One case for each length of the sequence, with the first byte and the second as numbers.
  split
  · have lead : (UInt8.ofNat c.toNat).toNat = c.toNat :=
      UInt8.toNat_ofNat_of_lt (show c.toNat < 256 by omega)
    rw [List.cons_append, decodeFrom_one position _ (by omega), number (by rw [lead]; rfl)]
    rfl
  · split
    · have lead : (UInt8.ofNat (0xC0 + c.toNat / 64)).toNat = 0xC0 + c.toNat / 64 :=
        UInt8.toNat_ofNat_of_lt (show 0xC0 + c.toNat / 64 < 256 by omega)
      have next := toNat_tail (c.toNat / 1)
      have second : continuesAfter (UInt8.ofNat (0xC0 + c.toNat / 64)) (UInt8.ofNat (0x80 + c.toNat / 1 % 64)) = true :=
        continuesAfter_of_range (by omega) (by omega) (by omega) (by omega) (by omega)
      rw [List.cons_append, List.cons_append, decodeFrom_two position _ (by omega) second, number]
      · rfl
      · simp only [List.foldl_cons, List.foldl_nil, lead, next]
        omega
    · split
      · have lead : (UInt8.ofNat (0xE0 + c.toNat / 4096)).toNat = 0xE0 + c.toNat / 4096 :=
          UInt8.toNat_ofNat_of_lt (show 0xE0 + c.toNat / 4096 < 256 by omega)
        have next := toNat_tail (c.toNat / 64)
        have second : continuesAfter (UInt8.ofNat (0xE0 + c.toNat / 4096))
            (UInt8.ofNat (0x80 + c.toNat / 64 % 64)) = true :=
          continuesAfter_of_range (by omega) (by omega) (by omega) (by omega) (by omega)
        rw [List.cons_append, List.cons_append, List.cons_append,
          decodeFrom_three position _ (by omega) second (continues_tail _), number]
        · rfl
        · simp only [List.foldl_cons, List.foldl_nil, lead, toNat_tail]
          omega
      · have lead : (UInt8.ofNat (0xF0 + c.toNat / 262144)).toNat = 0xF0 + c.toNat / 262144 :=
          UInt8.toNat_ofNat_of_lt (show 0xF0 + c.toNat / 262144 < 256 by omega)
        have next := toNat_tail (c.toNat / 4096)
        have second : continuesAfter (UInt8.ofNat (0xF0 + c.toNat / 262144))
            (UInt8.ofNat (0x80 + c.toNat / 4096 % 64)) = true :=
          continuesAfter_of_range (by omega) (by omega) (by omega) (by omega) (by omega)
        rw [List.cons_append, List.cons_append, List.cons_append, List.cons_append,
          decodeFrom_four position _ (by omega) second (continues_tail _) (continues_tail _), number]
        · rfl
        · simp only [List.foldl_cons, List.foldl_nil, lead, toNat_tail]
          omega

/-- What was written is what is read. -/
theorem decode_encode (t : Text) : decode (encode t) = .ok t := by
  have anywhere : ∀ position, decodeFrom position (encode t) = .ok t := by
    induction t with
    | nil => exact fun _ => rfl
    | cons c rest ih =>
      intro position
      rw [encode, List.flatMap_cons, decodeFrom_encodeChar]
      show _ <$> decodeFrom _ (encode rest) = _
      rw [ih]
      rfl
  exact anywhere 0

theorem readFile_encode (t : Text) : readFile (encode t) = .ok (normalNewlines t) := by
  rw [readFile, decode_encode]
  rfl

end SledeCode.Utf8
