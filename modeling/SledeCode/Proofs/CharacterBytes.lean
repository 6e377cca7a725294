import SledeCode.Layout

namespace SledeCode

theorem Japanese.shiftJis?_ne_nil (c : Char) : shiftJis? c ≠ some [] := by
  unfold shiftJis?
  split <;> simp [shifted]

theorem Japanese.eucJp?_ne_nil (c : Char) : eucJp? c ≠ some [] := by
  unfold eucJp?
  split
  · simp
  · simp
  · split <;> simp [twoBytes]

namespace Chinese

theorem ascii?_ne_nil (c : Char) : ascii? c ≠ some [] := by
  unfold ascii?
  split <;> simp

theorem length_gbkPair? {c : Char} {bytes : Bytes} (pair : gbkPair? c = some bytes) : bytes.length = 2 := by
  unfold gbkPair? at pair
  split at pair
  · rw [← Option.some.inj pair]
    rfl
  · split at pair
    · split at pair
      · rw [← Option.some.inj pair]
        rfl
      · rw [← Option.some.inj pair]
        unfold addedIdeograph
        dsimp only
        split <;> rfl
    · cases pair

theorem length_privatePair? {c : Char} {bytes : Bytes} (pair : privatePair? c = some bytes) :
    bytes.length = 2 := by
  unfold privatePair? at pair
  dsimp only at pair
  split at pair
  · cases pair
  · split at pair
    · rw [← Option.some.inj pair]
      rfl
    · split at pair
      · rw [← Option.some.inj pair]
        rfl
      · split at pair
        · rw [← Option.some.inj pair]
          rfl
        · obtain ⟨code, _, rfl⟩ := Option.map_eq_some_iff.mp pair
          rfl

theorem gbkPair?_ne_nil (c : Char) : gbkPair? c ≠ some [] := by
  intro empty
  cases length_gbkPair? empty

theorem privatePair?_ne_nil (c : Char) : privatePair? c ≠ some [] := by
  intro empty
  cases length_privatePair? empty

theorem gb18030_ne_nil (c : Char) : gb18030 c ≠ [] := by
  have ascii := ascii?_ne_nil c
  have pair := gbkPair?_ne_nil c
  have own := privatePair?_ne_nil c
  unfold gb18030
  split <;> simp_all [twoBytes, fourBytes]

end Chinese

theorem RowSet.encodeChar?_ne_nil (s : RowSet) (c : Char) : s.encodeChar? c ≠ some [] := by
  cases s with
  | shiftJis => exact Japanese.shiftJis?_ne_nil c
  | eucJp => exact Japanese.eucJp?_ne_nil c
  | gb2312 =>
    simp only [encodeChar?, Chinese.gb2312?]
    have ascii := Chinese.ascii?_ne_nil c
    split <;> simp_all [twoBytes]
  | big5 =>
    simp only [encodeChar?, Chinese.big5?]
    have ascii := Chinese.ascii?_ne_nil c
    split <;> simp_all [twoBytes]
  | gbk =>
    simp only [encodeChar?, Chinese.gbk?]
    have ascii := Chinese.ascii?_ne_nil c
    have pair := Chinese.gbkPair?_ne_nil c
    split <;> simp_all
  | gb18030 => simpa [encodeChar?] using Chinese.gb18030_ne_nil c

theorem ByteOrder.arrange_ne_nil {o : ByteOrder} {bytes : Bytes} (some : bytes ≠ []) : o.arrange bytes ≠ [] := by
  cases o <;> simpa [arrange] using some

theorem Charset.encodeChar?_ne_nil (cs : Charset) (c : Char) : cs.encodeChar? c ≠ some [] := by
  cases cs with
  | page p => simp [encodeChar?]
  | rows s => exact s.encodeChar?_ne_nil c
  | utf8 marked =>
    simp only [encodeChar?, Utf8.encodeChar]
    split
    · simp
    · split
      · simp
      · split <;> simp
  | utf16 o marked =>
    simp only [encodeChar?, encode16]
    split <;> simp [unit16, ByteOrder.arrange_ne_nil]
  | utf32 o marked => simp [encodeChar?, encode32, ByteOrder.arrange_ne_nil]

theorem Charset.one_le_charSize (cs : Charset) (c : Char) : 1 ≤ ((cs.encodeChar? c).map List.length).getD 1 := by
  cases encoded : cs.encodeChar? c with
  | none => exact Nat.le_refl 1
  | some bytes =>
    have nonempty : bytes ≠ [] := by
      rintro rfl
      exact cs.encodeChar?_ne_nil c encoded
    exact List.length_pos_iff.mpr nonempty

/-- A text takes at least as many bytes as it has characters. -/
theorem Charset.length_le_sizeReplacing (cs : Charset) (t : Text) : t.length ≤ cs.sizeReplacing t :=
  Nat.le_trans (length_le_total_map (fun c _ => cs.one_le_charSize c)) (Nat.le_add_left _ _)

theorem Encoding.isAmple_charset (cs : Charset) : (Encoding.charset cs).codec.IsAmple := by
  intro t n sized
  rw [← Except.ok.inj sized]
  exact cs.length_le_sizeReplacing t

theorem Settings.length_le_size {codecs : Codecs} {s : Settings codecs} (ample : s.codec.IsAmple) (t : Text) :
    t.length ≤ s.size t := ample t _ (s.sizeReplacing_codec t)

end SledeCode
