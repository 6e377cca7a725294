import SledeCode.Encoding.Name
import SledeCode.Results

namespace SledeCode

namespace Codec

/-- Where a text can be written without substitutes, allowing them changes nothing: it takes as many
bytes as are written. -/
def IsFaithful (c : Codec) : Prop :=
  ∀ t bytes, c.encode t = .ok bytes → c.sizeReplacing t = .ok bytes.length

/-- Every character takes a byte or more: a text takes no fewer bytes than it has characters, with
substitutes too. -/
def IsAmple (c : Codec) : Prop := ∀ t n, c.sizeReplacing t = .ok n → t.length ≤ n

/-- What the assembler asks of a codec, besides that samples of text take one byte per character. -/
structure IsLawful (c : Codec) : Prop where
  /-- With substitutes, every text has a size. -/
  sizes : ∀ t, ∃ n, c.sizeReplacing t = .ok n
  faithful : c.IsFaithful
  /-- A text is refused only for a character that the encoding lacks. -/
  refusal : ∀ t r, c.encode t = .error r → r = .unrepresentable

/-- How many bytes a text takes with substitutes. -/
def size (c : Codec) (lawful : c.IsLawful) (t : Text) : Nat :=
  match sized : c.sizeReplacing t with
  | .ok n => n
  | .error fault => absurd (lawful.sizes t) (by rw [sized]; nofun)

theorem sizeReplacing_eq_size (c : Codec) (lawful : c.IsLawful) (t : Text) :
    c.sizeReplacing t = .ok (c.size lawful t) := by
  unfold size
  split
  · assumption
  · rename_i fault sized
    obtain ⟨n, sizes⟩ := lawful.sizes t
    rw [sized] at sizes
    cases sizes

end Codec

/-- The codecs that there are by name. Each that passes for one byte per character keeps the laws. -/
structure Codecs where
  find : Encoding.Registry
  lawful : ∀ name codec, find name = .ok codec → codec.spendsOneByte = .ok true → codec.IsLawful

/-- Whether the name is that of a codec that spends one byte per character, as far
as its samples show. A null character in the name is still a fault. -/
def Codecs.namesOneByte (codecs : Codecs) (name : Text) : Except Encoding.Fault Bool :=
  match codecs.find name with
  | .ok codec => codec.spendsOneByte.mapError (.refused name)
  | .error .nullInName => .error .nullInName
  | .error _ => .ok false

namespace Charset

theorem length_encodeChars? {cs : Charset} {t : Text} {bytes : Bytes}
    (encoded : cs.encodeChars? t = some bytes) :
    bytes.length = total (t.map fun c => ((cs.encodeChar? c).map List.length).getD 1) := by
  induction t generalizing bytes with
  | nil =>
    cases encoded
    rfl
  | cons c rest ih =>
    unfold encodeChars? at encoded
    split at encoded
    · rename_i first others firstBytes otherBytes
      rw [← Option.some.inj encoded, List.length_append, ih otherBytes]
      simp [firstBytes]
    · cases encoded

/-- A text that a set can encode takes as many bytes as if substitutes were allowed. -/
theorem length_encode? {cs : Charset} {t : Text} {bytes : Bytes}
    (encoded : cs.encode? t = some bytes) : bytes.length = cs.sizeReplacing t := by
  obtain ⟨chars, encodedChars, rfl⟩ := Option.map_eq_some_iff.mp encoded
  rw [List.length_append, length_encodeChars? encodedChars, sizeReplacing]

end Charset

namespace Encoding

theorem encode_charset_eq_ok_iff {cs : Charset} {t : Text} {bytes : Bytes} :
    (Encoding.charset cs).encode t = .ok bytes ↔ cs.encode? t = some bytes := by
  simp only [encode]
  cases cs.encode? t <;> simp

theorem encode_transfer_eq_ok_iff {form : TransferForm} {t : Text} {bytes : Bytes} :
    (Encoding.transfer form).encode t = .ok bytes ↔ form.encode t = .ok bytes := mapError_eq_ok_iff

/-- Of the encodings that have a name, only that of domain names is not faithful: it allows no
substitutes, needed or not. -/
theorem isFaithful_iff (encoding : Encoding) : encoding.codec.IsFaithful ↔ encoding ≠ .transfer .domainName := by
  constructor
  · rintro faithful rfl
    have written : (DomainName.encode ['a']).toOption = some ['a'] := by decide +kernel
    cases encoded : DomainName.encode ['a'] with
    | error fault =>
      rw [encoded] at written
      cases written
    | ok t =>
      have transferred : TransferForm.domainName.encode ['a'] = .ok (TransferForm.bytesOf t) := by
        rw [TransferForm.encode, mapError_eq_ok_iff, encoded]
        rfl
      have done : (Encoding.transfer .domainName).codec.encode ['a'] = .ok (TransferForm.bytesOf t) :=
        encode_transfer_eq_ok_iff.mpr transferred
      cases faithful _ _ done
  · intro other t bytes written
    cases encoding with
    | charset cs =>
      rw [Charset.length_encode? (encode_charset_eq_ok_iff.mp written)]
      rfl
    | transfer form =>
      have size : form.sizeReplacing t = (form.encode t).map List.length := by
        cases form with
        | domainName => exact absurd rfl other
        | utf7 | escape | rawEscape | punycode | undefined => rfl
      show form.sizeReplacing t = .ok bytes.length
      rw [size, encode_transfer_eq_ok_iff.mp written]
      rfl

theorem isLawful_charset (cs : Charset) : (Encoding.charset cs).codec.IsLawful where
  sizes t := ⟨cs.sizeReplacing t, rfl⟩
  faithful := (isFaithful_iff _).mpr (by simp)
  refusal t r refused := by
    simp only [codec, encode] at refused
    split at refused
    · cases refused
    · exact (Except.error.inj refused).symm

/-- A form that writes every text keeps the laws. -/
theorem isLawful_transfer {form : TransferForm} {write : Text → Bytes}
    (written : ∀ t, form.encode t = .ok (write t)) (other : form ≠ .domainName) :
    (Encoding.transfer form).codec.IsLawful := by
  have encoded (t : Text) : (Encoding.transfer form).codec.encode t = .ok (write t) :=
    encode_transfer_eq_ok_iff.mpr (written t)
  have faithful : (Encoding.transfer form).codec.IsFaithful := (isFaithful_iff _).mpr (by simpa using other)
  refine ⟨fun t => ⟨_, faithful t _ (encoded t)⟩, faithful, fun t r refused => ?_⟩
  rw [encoded] at refused
  cases refused

/-- A domain name spends more than one byte on the Norwegian letter. -/
theorem spendsOneByte_domainName : (Encoding.transfer .domainName).codec.spendsOneByte ≠ .ok true := by
  intro passes
  have fails : (Encoding.transfer .domainName).codec.spendsOneByte.toOption = some false := by decide +kernel
  rw [passes] at fails
  cases fails

/-- Every encoding that passes for one byte per character keeps the laws. -/
theorem isLawful_of_spendsOneByte {encoding : Encoding} (passes : encoding.codec.spendsOneByte = .ok true) :
    encoding.codec.IsLawful := by
  cases encoding with
  | charset cs => exact isLawful_charset cs
  | transfer form =>
    cases form with
    | domainName => exact absurd passes spendsOneByte_domainName
    | undefined => cases passes
    | utf7 | escape | rawEscape | punycode => exact isLawful_transfer (fun _ => rfl) (by simp)

theorem registry_eq_ok_iff {name : Text} {codec : Codec} :
    registry name = .ok codec ↔ ∃ encoding, find name = .ok encoding ∧ encoding.codec = codec := map_eq_ok_iff

end Encoding

/-- The codecs of the encodings that have a name here. -/
def Codecs.standard : Codecs where
  find := Encoding.registry
  lawful name codec found passes := by
    obtain ⟨encoding, -, rfl⟩ := Encoding.registry_eq_ok_iff.mp found
    exact Encoding.isLawful_of_spendsOneByte passes

namespace Codec

/-- The codec lacks a character or writes it as one byte. -/
def IsNarrowOn (codec : Codec) (c : Char) : Prop :=
  codec.encode [c] = .error .unrepresentable ∨ ∃ b, codec.encode [c] = .ok [b]

theorem spendsOneByteOn_of_isNarrowOn {codec : Codec} {samples : List Char}
    (each : ∀ c ∈ samples, codec.IsNarrowOn c) : codec.spendsOneByteOn samples = .ok true := by
  induction samples with
  | nil => rfl
  | cons c rest ih =>
    have later := ih fun d member => each d (List.mem_cons_of_mem c member)
    rcases each c List.mem_cons_self with lacks | ⟨b, writes⟩
    · rw [spendsOneByteOn, lacks, later]
    · rw [spendsOneByteOn, writes]
      exact later

theorem spendsOneByte_of_isNarrowOn {codec : Codec} {b : UInt8} (first : codec.encode ['A'] = .ok [b])
    (others : ∀ c ∈ ['æ', '€'], codec.IsNarrowOn c) : codec.spendsOneByte = .ok true := by
  rw [spendsOneByte, first]
  exact spendsOneByteOn_of_isNarrowOn others

end Codec

/-- A code page passes for one byte per character if it has the first sample. -/
theorem CodePage.spendsOneByte_codec {p : CodePage} (has : (p.byte? 'A').isSome = true) :
    (Encoding.charset (.page p)).codec.spendsOneByte = .ok true := by
  have encode? (c : Char) : (Charset.page p).encode? [c] = (p.byte? c).map fun b => [b] := by
    simp only [Charset.encode?, Charset.encodeChars?, Charset.encodeChar?, Charset.mark]
    cases p.byte? c <;> rfl
  obtain ⟨b, first⟩ := Option.isSome_iff_exists.mp has
  refine Codec.spendsOneByte_of_isNarrowOn (b := b) ?_ fun c _ => ?_
  · simp only [Encoding.codec, Encoding.encode, encode?, first, Option.map_some]
  · simp only [Codec.IsNarrowOn, Encoding.codec, Encoding.encode, encode?]
    cases p.byte? c with
    | none => exact Or.inl rfl
    | some b => exact Or.inr ⟨b, rfl⟩

end SledeCode
