import SledeCode.Layout
import SledeCode.Proofs.EmissionOutcome

namespace SledeCode

variable {codecs : Codecs}

namespace Operand

theorem string?_of_not_isString {arg : Text} (other : isString arg = false) : string? arg = none := by
  cases arg with
  | nil => rfl
  | cons c rest =>
    have head : c ≠ Text.apostrophe := by simpa [isString] using other
    simp [string?, head]

end Operand

namespace Emission

variable {find : Encoding.Registry} {name : Text}

/-- An operand of a data line is accepted if it is a string that the codec can write, or a number
of one byte. -/
theorem datumIn_eq_ok_iff {arg : Text} {bytes : Bytes} :
    (datumIn find name arg).outcome = .ok bytes ↔
      (∃ t codec, Operand.string? arg = some t ∧ find name = .ok codec ∧ codec.encode t = .ok bytes) ∨
        (Operand.isString arg = false ∧
          ∃ value : UInt8, Operand.value? arg = .ok (some (value.toNat : Int)) ∧ bytes = [value]) := by
  cases quoted : Operand.isString arg with
  | true =>
    cases content : Operand.string? arg with
    | none => simp [datumIn, quoted, content]
    | some t =>
      simp only [datumIn, quoted, content, if_true, Run.bind_eq_ok_iff, Run.ofOutcome_mapError_eq_ok_iff]
      constructor
      · rintro ⟨codec, known, rest⟩
        cases written : codec.encode t with
        | ok whole =>
          simp only [written, Run.outcome_pure, Except.ok.injEq] at rest
          exact Or.inl ⟨t, codec, rfl, known, rest ▸ written⟩
        | error refusal => cases refusal <;> simp [written] at rest
      · rintro (⟨u, codec, same, known, written⟩ | ⟨unquoted, _⟩)
        · cases same
          exact ⟨codec, known, by simp [written]⟩
        · cases unquoted
  | false =>
    simp only [datumIn, quoted, Bool.false_eq_true, if_false, Run.bind_eq_ok_iff, literal_eq_ok_iff]
    constructor
    · rintro ⟨_ | value, read, rest⟩
      · simp at rest
      · obtain ⟨byte, rfl, rfl⟩ := (byte_eq_ok_iff fun byte => [byte]).mp rest
        exact Or.inr ⟨trivial, byte, read, rfl⟩
    · rintro (⟨t, _, content, _⟩ | ⟨_, byte, read, rfl⟩)
      · rw [Operand.string?_of_not_isString quoted] at content
        cases content
      · exact ⟨_, read, (byte_eq_ok_iff fun byte => [byte]).mpr ⟨byte, rfl, rfl⟩⟩

/-- An operand that is accepted has the size that was found without writing it. -/
theorem argSizeIn_of_datumIn (faithful : ∀ codec, find name = .ok codec → codec.IsFaithful) {arg : Text}
    {bytes : Bytes} (done : (datumIn find name arg).outcome = .ok bytes) :
    Layout.argSizeIn find name arg = .ok bytes.length := by
  rcases datumIn_eq_ok_iff.mp done with ⟨t, codec, content, known, written⟩ | ⟨unquoted, value, _, rfl⟩
  · have size : codec.sizeReplacing t = .ok bytes.length := faithful codec known t bytes written
    simp only [Layout.argSizeIn, content, known]
    show (codec.sizeReplacing t).mapError (Encoding.Fault.refused name) = .ok bytes.length
    rw [size]
    rfl
  · simp only [Layout.argSizeIn, Operand.string?_of_not_isString unquoted]
    rfl

end Emission

namespace Layout

/-- The size of an operand under the settings is the one that their codec finds. -/
theorem argSizeIn_settings (s : Settings codecs) (arg : Text) :
    argSizeIn codecs.find s.encodingName arg = .ok (argSize s arg) := by
  unfold argSizeIn argSize
  cases Operand.string? arg with
  | none => rfl
  | some t =>
    rw [s.found]
    show (s.codec.sizeReplacing t).mapError _ = _
    rw [s.sizeReplacing_codec]
    rfl

theorem dataSizeIn_cons {find : Encoding.Registry} {name arg : Text} {rest : List Text} {n m : Nat}
    (first : argSizeIn find name arg = .ok n) (later : dataSizeIn find name rest = .ok m) :
    dataSizeIn find name (arg :: rest) = .ok (n + m) := by
  unfold dataSizeIn at later ⊢
  rw [List.mapM_cons, first]
  cases sizes : rest.mapM (argSizeIn find name) with
  | error fault =>
    rw [sizes] at later
    cases later
  | ok ns =>
    rw [sizes] at later
    cases later
    rfl

end Layout

namespace Emission

/-- Whatever codecs there are, and however many bytes they spend on a character: if the operands of a
data line are accepted, as many bytes are written for them as their size said, provided that the codec
is faithful. -/
theorem data_has_its_size (find : Encoding.Registry) (name : Text)
    (faithful : ∀ codec, find name = .ok codec → codec.IsFaithful) (args : List Text) (bytes : Bytes)
    (done : (dataIn find name args).outcome = .ok bytes) :
    Layout.dataSizeIn find name args = .ok bytes.length := by
  induction args generalizing bytes with
  | nil =>
    cases done
    rfl
  | cons arg rest ih =>
    obtain ⟨first, firstDone, later⟩ := Run.bind_eq_ok_iff.mp done
    obtain ⟨others, othersDone, same⟩ := Run.bind_eq_ok_iff.mp later
    rw [← Except.ok.inj same, List.length_append]
    exact Layout.dataSizeIn_cons (argSizeIn_of_datumIn faithful firstDone) (ih others othersDone)

/-- Two characters of two and three bytes with something behind the closing quote, and two numbers. -/
theorem data_has_its_size_utf8 :
    let e : Emission .standard := ⟨.empty, ⟨true, false, "utf-8".toList⟩⟩
    let args : List Text := ["'æ€'rest'".toList, "0x41".toList, "+7".toList]
    (e.data args).outcome = .ok [0xC3, 0xA6, 0xE2, 0x82, 0xAC, 0x41, 7] ∧
      Layout.dataSizeNamed e.options.encodingName args = .ok 7 := by
  intro e args
  have written : (e.data args).outcome = .ok [0xC3, 0xA6, 0xE2, 0x82, 0xAC, 0x41, 7] := by decide +kernel
  have utf8 : Encoding.find e.options.encodingName = .ok (.charset (.utf8 false)) := by decide +kernel
  refine ⟨written, data_has_its_size Encoding.registry _ (fun codec known => ?_) args _ written⟩
  obtain ⟨encoding, found, rfl⟩ := Encoding.registry_eq_ok_iff.mp known
  rw [utf8] at found
  cases found
  exact (Encoding.isFaithful_iff _).mpr (by simp)

end Emission

end SledeCode
