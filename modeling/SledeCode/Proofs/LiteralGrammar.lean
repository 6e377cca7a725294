import Mathlib.Data.Nat.Digits.Defs
import SledeCode.Proofs.EmissionFailure
import SledeCode.Proofs.NumeralReading

namespace SledeCode

namespace Text

/-- The sum of the digits, each times the power of the base that belongs to its place. -/
def positional (base : Nat) (digits : Text) : Nat := Nat.ofDigits base (digits.map digitValue).reverse

/-- Taking in the digits from the left gives their positional value. -/
theorem ofDigits_eq_positional (base : Nat) (digits : Text) : ofDigits base digits = positional base digits := by
  induction digits using List.reverseRecOn with
  | nil => rfl
  | append_singleton front last ih =>
    have step : positional base (front ++ [last]) = digitValue last + base * positional base front := by
      simp [positional, Nat.ofDigits_cons]
    rw [ofDigits_append_singleton, ih, step, Nat.add_comm]

theorem ofDigits_hexLower (n : Nat) : ofDigits 16 (hexLower n) = n := by
  have read : ofDigits 16 ((Nat.toDigits 16 n).map id) = n := ofDigits_map_toDigits (by decide) (by decide) n
  rwa [List.map_id] at read

/-- At least one digit, and nothing else. -/
structure IsNumeral (isDigit : Char → Bool) (digits : Text) : Prop where
  nonempty : digits ≠ []
  all : digits.all isDigit = true

theorem isNumeral_decimal (n : Nat) : IsNumeral Char.isDigit (decimal n) :=
  ⟨decimal_ne_nil n, List.all_eq_true.mpr fun _ => isDigit_of_mem_decimal⟩

end Text

namespace Operand

/-- The numeric literals, each with the number that it stands for. -/
inductive Denotes : Text → Int → Prop
  | hexadecimal {digits : Text} :
      Text.IsNumeral Text.isHexDigit digits → Denotes ('0' :: 'x' :: digits) (Text.positional 16 digits)
  | unsigned {digits : Text} :
      Text.IsNumeral Char.isDigit digits → Denotes digits (Text.positional 10 digits)
  | plus {digits : Text} :
      Text.IsNumeral Char.isDigit digits → Denotes ('+' :: digits) (Text.positional 10 digits)
  | minus {digits : Text} :
      Text.IsNumeral Char.isDigit digits → Denotes ('-' :: digits) (-Text.positional 10 digits)

/-- A decimal literal with this number of digits, which is more than are read. -/
def IsTooLong (t : Text) (count : Nat) : Prop :=
  ∃ mark ∈ ([[], ['+'], ['-']] : List Text), ∃ digits : Text,
    t = mark ++ digits ∧ digits.all Char.isDigit = true ∧ digits.length = count ∧ digitLimit < count

theorem hexadecimal?_eq_some_iff {t : Text} {n : Nat} :
    hexadecimal? t = some n ↔
      ∃ digits, t = '0' :: 'x' :: digits ∧ Text.IsNumeral Text.isHexDigit digits ∧ n = Text.positional 16 digits := by
  constructor
  · intro found
    unfold hexadecimal? at found
    split at found
    · rename_i digits
      simp only [Option.ite_none_right_eq_some, Option.some.injEq] at found
      obtain ⟨⟨nonempty, all⟩, rfl⟩ := found
      exact ⟨digits, rfl, ⟨nonempty, all⟩, Text.ofDigits_eq_positional 16 digits⟩
    · cases found
  · rintro ⟨digits, rfl, ⟨nonempty, all⟩, rfl⟩
    rw [hexadecimal?, if_pos ⟨nonempty, all⟩, Text.ofDigits_eq_positional]

theorem not_mem_of_isNumeral {digits : Text} (numeral : Text.IsNumeral Char.isDigit digits) {c : Char}
    (other : c.isDigit = false) : c ∉ digits := by
  intro member
  rw [List.all_eq_true.mp numeral.all c member] at other
  cases other

/-- A decimal literal is read up to the limit. -/
theorem value?_of_sign {t digits : Text} {negative : Bool} (hex : hexadecimal? t = none)
    (sign : splitSign t = (negative, digits)) (numeral : Text.IsNumeral Char.isDigit digits) :
    value? t =
      if digitLimit < digits.length then .error ⟨digits.length⟩
      else .ok (some (if negative then -(Text.positional 10 digits : Int) else Text.positional 10 digits)) := by
  simp [value?, hex, sign, numeral.nonempty, numeral.all, Text.ofDigits_eq_positional]

theorem value?_of_mark {mark digits : Text} (sign : mark ∈ ([[], ['+'], ['-']] : List Text))
    (numeral : Text.IsNumeral Char.isDigit digits) :
    value? (mark ++ digits) =
      if digitLimit < digits.length then .error ⟨digits.length⟩
      else .ok (some (if mark = ['-'] then -(Text.positional 10 digits : Int) else Text.positional 10 digits)) := by
  have absent {c : Char} (other : c.isDigit = false) : c ∉ digits := not_mem_of_isNumeral numeral other
  simp only [List.mem_cons, List.not_mem_nil, or_false] at sign
  rcases sign with rfl | rfl | rfl
  · have unsigned : splitSign digits = (false, digits) :=
      splitSign_of_unsigned (fun first => absent (c := '+') (by decide) (List.mem_of_mem_head? first))
        (fun first => absent (c := '-') (by decide) (List.mem_of_mem_head? first))
    exact value?_of_sign (hexadecimal?_of_second (absent (by decide))) unsigned numeral
  · exact value?_of_sign (t := '+' :: digits) rfl rfl numeral
  · exact value?_of_sign (t := '-' :: digits) rfl rfl numeral

theorem value?_of_not_isNumeral {t : Text} (hex : hexadecimal? t = none)
    (other : ¬Text.IsNumeral Char.isDigit (splitSign t).2) : value? t = .ok none := by
  have refused : (splitSign t).2 = [] ∨ (!(splitSign t).2.all Char.isDigit) = true := by
    by_contra both
    rw [not_or, Bool.not_eq_true', Bool.not_eq_false] at both
    exact other ⟨both.1, both.2⟩
  simp only [value?, hex]
  rw [if_pos refused]

theorem value?_eq_error_iff {t : Text} {o : Overlong} : value? t = .error o ↔ IsTooLong t o.digits := by
  constructor
  · exact digits_of_value?_error
  · rintro ⟨mark, sign, digits, rfl, all, length, long⟩
    have nonempty : digits ≠ [] := by
      rintro rfl
      rw [← length] at long
      exact absurd long (Nat.not_lt_zero _)
    rw [value?_of_mark sign ⟨nonempty, all⟩, if_pos (length ▸ long), length]

theorem denotes_of_value? {t : Text} {n : Int} (read : value? t = .ok (some n)) : Denotes t n := by
  cases hex : hexadecimal? t with
  | some m =>
    obtain ⟨digits, rfl, numeral, rfl⟩ := hexadecimal?_eq_some_iff.mp hex
    simp only [value?, hex, Except.ok.injEq, Option.some.injEq] at read
    rw [← read]
    exact .hexadecimal numeral
  | none =>
    by_cases numeral : Text.IsNumeral Char.isDigit (splitSign t).2
    · obtain ⟨mark, sign, whole⟩ := splitSign_cases t
      rw [whole, value?_of_mark sign numeral] at read
      rw [whole]
      split at read
      · cases read
      · simp only [List.mem_cons, List.not_mem_nil, or_false] at sign
        rcases sign with rfl | rfl | rfl
        · cases read
          exact .unsigned numeral
        · cases read
          exact .plus numeral
        · cases read
          exact .minus numeral
    · rw [value?_of_not_isNumeral hex numeral] at read
      cases read

theorem value?_of_hexadecimal {digits : Text} (numeral : Text.IsNumeral Text.isHexDigit digits) :
    value? ('0' :: 'x' :: digits) = .ok (some (Text.positional 16 digits)) := by
  have read := hexadecimal?_eq_some_iff.mpr ⟨digits, rfl, numeral, rfl⟩
  simp [value?, read]

/-- A literal is read as the number that it stands for, unless it has too many digits. -/
theorem value?_of_denotes {t : Text} {n : Int} (denotes : Denotes t n) (short : ∀ count, ¬IsTooLong t count) :
    value? t = .ok (some n) := by
  have within (mark : Text) {digits : Text} (sign : mark ∈ ([[], ['+'], ['-']] : List Text))
      (numeral : Text.IsNumeral Char.isDigit digits) (whole : t = mark ++ digits) :
      value? t =
        .ok (some (if mark = ['-'] then -(Text.positional 10 digits : Int) else Text.positional 10 digits)) := by
    have few : ¬digitLimit < digits.length := fun long =>
      short digits.length ⟨mark, sign, digits, whole, numeral.all, rfl, long⟩
    rw [whole, value?_of_mark sign numeral, if_neg few]
  cases denotes with
  | hexadecimal numeral => exact value?_of_hexadecimal numeral
  | unsigned numeral => exact within [] (by simp) numeral rfl
  | plus numeral => exact within ['+'] (by simp) numeral rfl
  | minus numeral => exact within ['-'] (by simp) numeral rfl

theorem value?_exact_iff (t : Text) :
    (∃ found, value? t = .ok found ∧ ∀ n, found = some n ↔ Denotes t n) ↔ ∀ count, ¬IsTooLong t count := by
  constructor
  · rintro ⟨found, read, _⟩ count long
    rw [value?_eq_error_iff (o := ⟨count⟩) |>.mpr long] at read
    cases read
  · intro short
    cases read : value? t with
    | error o => exact absurd (value?_eq_error_iff.mp read) (short o.digits)
    | ok found =>
      refine ⟨found, rfl, fun n => ⟨?_, fun denotes => ?_⟩⟩
      · rintro rfl
        exact denotes_of_value? read
      · rw [value?_of_denotes denotes short] at read
        exact (Except.ok.inj read).symm

/-- A text that starts with no sign. -/
def IsUnsigned (t : Text) : Prop := t.head? ≠ some '+' ∧ t.head? ≠ some '-'

/-- The text of a register: the letter and a literal without a sign that stands for its number. -/
def DenotesRegister (t : Text) (r : Register) : Prop :=
  ∃ number, t = 'r' :: number ∧ IsUnsigned number ∧ Denotes number r.val

/-- The text of a register that gives a number by too many digits. -/
def IsTooLongRegister (t : Text) (count : Nat) : Prop :=
  ∃ number, t = 'r' :: number ∧ IsUnsigned number ∧ IsTooLong number count

/-- Behind the letter, a literal without a sign is read as any other, and must be the number of a register. -/
theorem register?_of_unsigned {number : Text} (unsigned : IsUnsigned number) :
    (∀ o, register? ('r' :: number) = .error o ↔ value? number = .error o) ∧
      ∀ r : Register, register? ('r' :: number) = .ok (some r) ↔ value? number = .ok (some (r.val : Int)) := by
  unfold register?
  split
  · rename_i same
    exact absurd (by rw [(List.cons.inj same).2]; rfl) unsigned.1
  · rename_i same
    exact absurd (by rw [(List.cons.inj same).2]; rfl) unsigned.2
  · rename_i same
    obtain ⟨_, rfl⟩ := List.cons.inj same
    cases value? number with
    | error e => simp [Except.map]
    | ok found =>
      cases found with
      | none => simp [Except.map]
      | some n =>
        refine ⟨by simp [Except.map], fun r => ?_⟩
        simp only [Except.map, Option.bind_some, Except.ok.injEq, Option.some.injEq]
        split
        · rw [Option.some.injEq, Fin.ext_iff]
          show n.toNat = r.val ↔ n = r.val
          omega
        · simp only [reduceCtorEq, false_iff]
          omega
  · rename_i other
    exact absurd rfl (other number)

theorem register?_of_other {t : Text} (other : ∀ number, t = 'r' :: number → ¬IsUnsigned number) :
    register? t = .ok none := by
  unfold register?
  split
  · rfl
  · rfl
  · rename_i number plus minus
    refine absurd ⟨fun first => ?_, fun first => ?_⟩ (other number rfl)
    · obtain ⟨rest, rfl⟩ := List.head?_eq_some_iff.mp first
      exact plus rest rfl
    · obtain ⟨rest, rfl⟩ := List.head?_eq_some_iff.mp first
      exact minus rest rfl
  · rfl

theorem register?_eq_error_iff {t : Text} {o : Overlong} :
    register? t = .error o ↔ IsTooLongRegister t o.digits := by
  constructor
  · intro failed
    by_cases shape : ∃ number, t = 'r' :: number ∧ IsUnsigned number
    · obtain ⟨number, rfl, unsigned⟩ := shape
      have long := ((register?_of_unsigned unsigned).1 o).mp failed
      exact ⟨number, rfl, unsigned, value?_eq_error_iff.mp long⟩
    · rw [register?_of_other fun number same unsigned => shape ⟨number, same, unsigned⟩] at failed
      cases failed
  · rintro ⟨number, rfl, unsigned, long⟩
    exact ((register?_of_unsigned unsigned).1 o).mpr (value?_eq_error_iff.mpr long)

theorem register?_eq_some_iff {t : Text} {r : Register} (short : ∀ count, ¬IsTooLongRegister t count) :
    register? t = .ok (some r) ↔ DenotesRegister t r := by
  by_cases shape : ∃ number, t = 'r' :: number ∧ IsUnsigned number
  · obtain ⟨number, rfl, unsigned⟩ := shape
    have within : ∀ count, ¬IsTooLong number count := fun count long => short count ⟨number, rfl, unsigned, long⟩
    obtain ⟨found, read, exactly⟩ := (value?_exact_iff number).mpr within
    rw [(register?_of_unsigned unsigned).2, read, Except.ok.injEq, exactly]
    constructor
    · intro denotes
      exact ⟨number, rfl, unsigned, denotes⟩
    · rintro ⟨_, same, _, denotes⟩
      cases same
      exact denotes
  · rw [register?_of_other fun number same unsigned => shape ⟨number, same, unsigned⟩]
    simp only [Except.ok.injEq, reduceCtorEq, false_iff]
    rintro ⟨number, same, unsigned, _⟩
    exact shape ⟨number, same, unsigned⟩

theorem register?_exact_iff (t : Text) :
    (∃ found, register? t = .ok found ∧ ∀ r, found = some r ↔ DenotesRegister t r) ↔
      ∀ count, ¬IsTooLongRegister t count := by
  constructor
  · rintro ⟨found, read, _⟩ count long
    rw [register?_eq_error_iff (o := ⟨count⟩) |>.mpr long] at read
    cases read
  · intro short
    cases read : register? t with
    | error o => exact absurd (register?_eq_error_iff.mp read) (short o.digits)
    | ok found =>
      refine ⟨found, rfl, fun r => ?_⟩
      rw [← register?_eq_some_iff short, read, Except.ok.injEq]

/-- The decimal form of a number is read back if the number has no more digits than are read. -/
theorem value?_integer_iff (n : Int) : value? (Text.integer n) = .ok (some n) ↔ n.natAbs < 10 ^ digitLimit := by
  have numeral := Text.isNumeral_decimal n.natAbs
  have value : Text.positional 10 (Text.decimal n.natAbs) = n.natAbs := by
    rw [← Text.ofDigits_eq_positional, Text.ofDigits_decimal]
  have length : (Text.decimal n.natAbs).length ≤ digitLimit ↔ n.natAbs < 10 ^ digitLimit :=
    Nat.length_toDigits_le_iff (by decide) (by decide)
  have read (mark : Text) (sign : mark ∈ ([[], ['+'], ['-']] : List Text))
      (signed : (if mark = ['-'] then -(n.natAbs : Int) else n.natAbs) = n) :
      value? (mark ++ Text.decimal n.natAbs) = .ok (some n) ↔ n.natAbs < 10 ^ digitLimit := by
    rw [value?_of_mark sign numeral, value, signed, ← length]
    split
    · rename_i long
      simpa using long
    · rename_i few
      simpa using few
  unfold Text.integer Text.signed
  split
  · exact read ['-'] (by simp) (by rw [if_pos rfl]; omega)
  · exact read [] (by simp) (by rw [if_neg (by simp)]; omega)

/-- A number is read back from its hexadecimal digits of either case, behind any number of zeros. -/
theorem value?_zeroPad (width n : Nat) :
    value? ('0' :: 'x' :: Text.zeroPad width (Text.hexLower n)) = .ok (some n) ∧
      value? ('0' :: 'x' :: Text.zeroPad width (Text.hexUpper n)) = .ok (some n) := by
  refine ⟨?_, value?_hex width n⟩
  have hex : ∀ c ∈ Text.zeroPad width (Text.hexLower n), Text.isHexDigit c = true := by
    intro c member
    rcases List.mem_append.mp member with zero | inside
    · rw [List.eq_of_mem_replicate zero]
      decide
    · exact Text.forall_mem_toDigits (P := fun d => Text.isHexDigit d = true) (by decide) (by decide) n c inside
  have numeral : Text.IsNumeral Text.isHexDigit (Text.zeroPad width (Text.hexLower n)) :=
    ⟨by simp [Text.zeroPad, Text.hexLower], List.all_eq_true.mpr hex⟩
  rw [value?_of_hexadecimal numeral, ← Text.ofDigits_eq_positional, Text.ofDigits_zeroPad, Text.ofDigits_hexLower]

/-- Reading a literal is exact except for decimal literals of too many digits. A text is read as the
number that it stands for, or as no literal, unless it is such a literal, and the same holds of
registers. So numbers are read back from their hexadecimal digits in any case, and from their decimal
digits if these are few enough. -/
theorem literals_read_exactly_iff (t : Text) (n : Int) (width m : Nat) :
    (((∃ found, value? t = .ok found ∧ ∀ k, found = some k ↔ Denotes t k) ↔ ∀ count, ¬IsTooLong t count) ∧
        ∀ o, value? t = .error o ↔ IsTooLong t o.digits) ∧
      (((∃ found, register? t = .ok found ∧ ∀ r, found = some r ↔ DenotesRegister t r) ↔
          ∀ count, ¬IsTooLongRegister t count) ∧
        ∀ o, register? t = .error o ↔ IsTooLongRegister t o.digits) ∧
      (value? (Text.integer n) = .ok (some n) ↔ n.natAbs < 10 ^ digitLimit) ∧
      value? ('0' :: 'x' :: Text.zeroPad width (Text.hexLower m)) = .ok (some m) ∧
      value? ('0' :: 'x' :: Text.zeroPad width (Text.hexUpper m)) = .ok (some m) :=
  ⟨⟨value?_exact_iff t, fun _ => value?_eq_error_iff⟩, ⟨register?_exact_iff t, fun _ => register?_eq_error_iff⟩,
    value?_integer_iff n, value?_zeroPad width m⟩

/-- A seven behind 4300 zeros stands for seven, and is not read. -/
theorem padded_seven_not_read :
    Denotes (List.replicate 4300 '0' ++ ['7']) 7 ∧
      value? (List.replicate 4300 '0' ++ ['7']) = .error ⟨4301⟩ := by
  have numeral : Text.IsNumeral Char.isDigit (List.replicate 4300 '0' ++ ['7']) :=
    ⟨List.append_ne_nil_of_right_ne_nil _ (by decide), by rw [List.all_append, List.all_replicate]; decide⟩
  have padded : List.replicate 4300 '0' ++ ['7'] = Text.zeroPad 4301 ['7'] := rfl
  have seven : Text.positional 10 (List.replicate 4300 '0' ++ ['7']) = 7 := by
    rw [← Text.ofDigits_eq_positional, padded, Text.ofDigits_zeroPad]
    rfl
  constructor
  · have denotes := Denotes.unsigned numeral
    rwa [seven] at denotes
  · have length : (List.replicate 4300 '0' ++ ['7']).length = 4301 := by
      rw [List.length_append, List.length_replicate]
      rfl
    exact value?_eq_error_iff.mpr ⟨[], List.mem_cons_self, _, rfl, numeral.all, length, by decide⟩

end Operand

end SledeCode
