import SledeCode.Instruction
import SledeCode.Proofs.LineShape

namespace SledeCode

namespace Text

theorem forall_mem_toDigits {b : Nat} (base : 1 < b) {P : Char → Prop}
    (digit : ∀ d, d < b → P (Nat.digitChar d)) (n : Nat) : ∀ c ∈ Nat.toDigits b n, P c := by
  induction n using Nat.strongRecOn with
  | ind n ih =>
    intro c member
    rw [Nat.toDigits_eq_if base] at member
    split at member
    · rename_i small
      rw [List.mem_singleton.mp member]
      exact digit n small
    · rename_i large
      rcases List.mem_append.mp member with front | last
      · exact ih (n / b) (Nat.div_lt_self (by omega) base) c front
      · rw [List.mem_singleton.mp last]
        exact digit (n % b) (Nat.mod_lt n (by omega))

theorem ofDigits_append_singleton (b : Nat) (front : Text) (c : Char) :
    ofDigits b (front ++ [c]) = b * ofDigits b front + digitValue c := by
  simp [ofDigits, List.foldl_append]

/-- A number is read back from its digits, in whatever case the digits are written. -/
theorem ofDigits_map_toDigits {b : Nat} (base : 1 < b) {recase : Char → Char}
    (digit : ∀ d, d < b → digitValue (recase (Nat.digitChar d)) = d) (n : Nat) :
    ofDigits b ((Nat.toDigits b n).map recase) = n := by
  induction n using Nat.strongRecOn with
  | ind n ih =>
    rw [Nat.toDigits_eq_if base]
    split
    · rename_i small
      simp [ofDigits, digit n small]
    · have shorter := ih (n / b) (Nat.div_lt_self (by omega) base)
      rw [List.map_append, List.map_singleton, ofDigits_append_singleton, shorter,
        digit (n % b) (Nat.mod_lt n (by omega)), Nat.div_add_mod]

theorem ofDigits_decimal (n : Nat) : ofDigits 10 (decimal n) = n := by
  have read : ofDigits 10 ((Nat.toDigits 10 n).map id) = n :=
    ofDigits_map_toDigits (by decide) (by decide) n
  rwa [List.map_id] at read

theorem ofDigits_hexUpper (n : Nat) : ofDigits 16 (hexUpper n) = n :=
  ofDigits_map_toDigits (by decide) (by decide) n

theorem ofDigits_zeroPad (b width : Nat) (digits : Text) :
    ofDigits b (zeroPad width digits) = ofDigits b digits := by
  rw [ofDigits, zeroPad, List.foldl_append]
  congr 1
  induction width - digits.length with
  | zero => rfl
  | succ k ih => simpa [List.replicate_succ, digitValue] using ih

theorem isDigit_of_mem_decimal {n : Nat} {c : Char} (member : c ∈ decimal n) : c.isDigit = true :=
  Nat.isDigit_of_mem_toDigits (by decide) (by decide) member

theorem isWordChar_of_mem_decimal {n : Nat} {c : Char} (member : c ∈ decimal n) : isWordChar c = true :=
  forall_mem_toDigits (P := fun d => isWordChar d = true) (by decide) (by decide) n c member

theorem forall_mem_hexUpper {P : Char → Prop} (digit : ∀ d, d < 16 → P (Nat.digitChar d).toUpper) (n : Nat) :
    ∀ c ∈ hexUpper n, P c := by
  intro c member
  obtain ⟨d, inside, rfl⟩ := List.mem_map.mp member
  exact forall_mem_toDigits (P := fun d => P d.toUpper) (by decide) digit n d inside

/-- What holds of the sixteen digits holds of every character of a padded number. -/
theorem forall_mem_zeroPad {P : Char → Prop} (digit : ∀ d, d < 16 → P (Nat.digitChar d).toUpper) (width n : Nat) :
    ∀ c ∈ zeroPad width (hexUpper n), P c := by
  intro c member
  rcases List.mem_append.mp member with zero | inside
  · rw [List.eq_of_mem_replicate zero]
    exact digit 0 (by decide)
  · exact forall_mem_hexUpper digit n c inside

theorem decimal_ne_nil (n : Nat) : decimal n ≠ [] := Nat.toDigits_ne_nil

theorem zeroPad_hexUpper_ne_nil (width n : Nat) : zeroPad width (hexUpper n) ≠ [] := by
  simp [zeroPad, hexUpper, hexLower]

theorem hexField_natCast (width n : Nat) : hexField width n = zeroPad width (hexUpper n) := by
  have positive : ¬(n : Int) < 0 := by omega
  simp [hexField, signed, positive]

theorem hexField_inj {width m n : Nat} : hexField width m = hexField width n ↔ m = n := by
  constructor
  · intro same
    rw [hexField_natCast, hexField_natCast] at same
    have digits := congrArg (ofDigits 16) same
    rwa [ofDigits_zeroPad, ofDigits_zeroPad, ofDigits_hexUpper, ofDigits_hexUpper] at digits
  · rintro rfl
    rfl

theorem isWordChar_of_mem_hexField {width n : Nat} {c : Char} (member : c ∈ hexField width n) :
    isWordChar c = true := by
  rw [hexField_natCast] at member
  exact forall_mem_zeroPad (P := fun d => isWordChar d = true) (by decide) width n c member

end Text

namespace Operand

theorem splitSign_of_unsigned {t : Text} (plus : t.head? ≠ some '+') (minus : t.head? ≠ some '-') :
    splitSign t = (false, t) := by
  unfold splitSign
  split
  · exact absurd rfl plus
  · exact absurd rfl minus
  · rfl

theorem hexadecimal?_of_second {t : Text} (second : 'x' ∉ t) : hexadecimal? t = none := by
  unfold hexadecimal?
  split
  · simp at second
  · rfl

theorem value?_decimal {n : Nat} (short : (Text.decimal n).length ≤ digitLimit) :
    value? (Text.decimal n) = .ok (some n) := by
  have digits {c : Char} (member : c ∈ Text.decimal n) : c.isDigit = true :=
    Text.isDigit_of_mem_decimal member
  have absent {c : Char} (other : c.isDigit = false) : c ∉ Text.decimal n := by
    intro member
    rw [digits member] at other
    exact Bool.noConfusion other
  have unsigned : splitSign (Text.decimal n) = (false, Text.decimal n) :=
    splitSign_of_unsigned (fun first => absent (c := '+') (by decide) (List.mem_of_mem_head? first))
      (fun first => absent (c := '-') (by decide) (List.mem_of_mem_head? first))
  have all : (Text.decimal n).all Char.isDigit = true := List.all_eq_true.mpr (fun c => digits)
  have within : ¬digitLimit < (Text.decimal n).length := Nat.not_lt.mpr short
  simp [value?, hexadecimal?_of_second (absent (c := 'x') (by decide)), unsigned, all,
    Text.decimal_ne_nil, within, Text.ofDigits_decimal]

theorem value?_hex (width n : Nat) :
    value? ('0' :: 'x' :: Text.zeroPad width (Text.hexUpper n)) = .ok (some n) := by
  have digits : Text.zeroPad width (Text.hexUpper n) ≠ [] ∧
      (Text.zeroPad width (Text.hexUpper n)).all Text.isHexDigit = true :=
    ⟨Text.zeroPad_hexUpper_ne_nil width n,
      List.all_eq_true.mpr (Text.forall_mem_zeroPad (by decide) width n)⟩
  have read : hexadecimal? ('0' :: 'x' :: Text.zeroPad width (Text.hexUpper n)) = some n := by
    rw [hexadecimal?, if_pos digits, Text.ofDigits_zeroPad, Text.ofDigits_hexUpper]
  simp [value?, read]

/-- A text that starts with a letter is no number. -/
theorem value?_of_letter {c : Char} {t : Text} (letter : c.isDigit = false) (plus : c ≠ '+')
    (minus : c ≠ '-') : value? (c :: t) = .ok none := by
  have hex : hexadecimal? (c :: t) = none := by
    unfold hexadecimal?
    split
    · rename_i same
      rw [(List.cons.inj same).1] at letter
      exact Bool.noConfusion letter
    · rfl
  have unsigned : splitSign (c :: t) = (false, c :: t) :=
    splitSign_of_unsigned (by simpa using plus) (by simpa using minus)
  simp [value?, hex, unsigned, letter]

theorem length_decimal_le {n : Nat} (small : n < 1000) : (Text.decimal n).length ≤ digitLimit := by
  have short : (Text.decimal n).length ≤ 3 :=
    (Nat.length_toDigits_le_iff (by decide) (by decide)).mpr small
  exact Nat.le_trans short (by decide)

theorem register?_registerText (r : Register) :
    register? (Instruction.registerText r) = .ok (some r) := by
  have digits {c : Char} (member : c ∈ Text.decimal r.val) : c.isDigit = true :=
    Text.isDigit_of_mem_decimal member
  have number := value?_decimal (length_decimal_le (show r.val < 1000 by omega))
  simp only [Instruction.registerText]
  unfold register?
  split
  · rename_i same
    exact absurd (digits (c := '+') (by simp [(List.cons.inj same).2])) (by decide)
  · rename_i same
    exact absurd (digits (c := '-') (by simp [(List.cons.inj same).2])) (by decide)
  · rename_i same
    rw [← (List.cons.inj same).2, number]
    have below : (r.val : Int) < 16 := by omega
    simp [Except.map, below]
  · rename_i other
    exact absurd rfl (other _)

end Operand

end SledeCode
