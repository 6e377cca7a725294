import SledeCode.Proofs.DataSizing
import SledeCode.Proofs.LabelDependence

namespace SledeCode

variable {codecs : Codecs}

/-- What stands at one place among the operands of an instruction. -/
inductive Slot where
  | register
  /-- A number of one byte, or else a register. -/
  | source
  /-- A number in the range of addresses, or else a label. -/
  | address
deriving DecidableEq, Repr

namespace Mnemonic

/-- The places of the operands, from left to right. -/
def slots : Mnemonic → List Slot
  | .sett => [.register, .source]
  | .plain _ => []
  | .address _ => [.address]
  | .memory _ => [.register]
  | .stream _ => [.register]
  | .alu _ => [.register, .register]
  | .compare _ => [.register, .register]

theorem mem_knownWords_iff {t : Text} : t ∈ knownWords ↔ t = dataWord ∨ ∃ m : Mnemonic, t = m.name := by
  have every (m : Mnemonic) : m ∈ all := List.mem_of_find?_eq_some (ofName?_name m)
  simp only [knownWords, List.mem_mergeSort, List.mem_cons, List.mem_map]
  refine or_congr_right ⟨?_, ?_⟩
  · rintro ⟨m, _, rfl⟩
    exact ⟨m, rfl⟩
  · rintro ⟨m, rfl⟩
    exact ⟨m, every m, rfl⟩

end Mnemonic

namespace Run

variable {α β : Type} {x : Run α} {remark : Note → Prop} {offence : Failure → Prop}

/-- The run gives a result, and notes nothing but remarks, if there is no offence. Otherwise it fails
with one, and has noted nothing. -/
def EndsBy (x : Run α) (remark : Note → Prop) (offence : Failure → Prop) : Prop :=
  (∃ a, x.outcome = .ok a) ∧ (∀ n ∈ x.notes, remark n) ∧ (∀ f, ¬ offence f) ∨ ∃ f, x = .fail f ∧ offence f

theorem endsBy_pure {a : α} (none : ∀ f, ¬ offence f) : (pure a : Run α).EndsBy remark offence :=
  Or.inl ⟨⟨a, rfl⟩, fun _ taken => (List.not_mem_nil taken).elim, none⟩

theorem endsBy_fail {f : Failure} (offends : offence f) : (fail f : Run α).EndsBy remark offence :=
  Or.inr ⟨f, rfl, offends⟩

namespace EndsBy

theorem ok_iff (ends : x.EndsBy remark offence) : (∃ a, x.outcome = .ok a) ↔ ∀ f, ¬ offence f := by
  rcases ends with ⟨given, _, none⟩ | ⟨f, rfl, offends⟩
  · exact ⟨fun _ => none, fun _ => given⟩
  · refine ⟨?_, fun none => absurd offends (none f)⟩
    rintro ⟨a, given⟩
    cases given

theorem offence_of_error (ends : x.EndsBy remark offence) {f : Failure} (failed : x.outcome = .error f) :
    offence f := by
  rcases ends with ⟨⟨a, given⟩, _⟩ | ⟨g, rfl, offends⟩
  · cases given.symm.trans failed
  · exact Except.error.inj failed ▸ offends

theorem error_iff (ends : x.EndsBy remark offence) (unique : ∀ f g, offence f → offence g → f = g) (f : Failure) :
    x.outcome = .error f ↔ offence f := by
  refine ⟨ends.offence_of_error, fun offends => ?_⟩
  rcases ends with ⟨_, _, none⟩ | ⟨g, rfl, other⟩
  · exact absurd offends (none f)
  · exact congrArg Except.error (unique g f other offends)

theorem remark_of_mem (ends : x.EndsBy remark offence) {n : Note} (taken : n ∈ x.notes) : remark n := by
  rcases ends with ⟨_, remarks, _⟩ | ⟨f, rfl, _⟩
  · exact remarks n taken
  · cases taken

theorem imp {offence' : Failure → Prop} (ends : x.EndsBy remark offence) (each : ∀ f, offence f → offence' f)
    (none : (∀ f, ¬ offence f) → ∀ f, ¬ offence' f) : x.EndsBy remark offence' :=
  Or.imp (fun ⟨given, remarks, without⟩ => ⟨given, remarks, none without⟩)
    (fun ⟨f, failed, offends⟩ => ⟨f, failed, each f offends⟩) ends

theorem congr {offence' : Failure → Prop} (ends : x.EndsBy remark offence) (same : ∀ f, offence f ↔ offence' f) :
    x.EndsBy remark offence' :=
  ends.imp (fun f => (same f).mp) (fun none f offends => none f ((same f).mpr offends))

theorem mono {remark' : Note → Prop} (ends : x.EndsBy remark offence) (more : ∀ n, remark n → remark' n) :
    x.EndsBy remark' offence :=
  Or.imp_left (fun ⟨given, remarks, without⟩ => ⟨given, fun n taken => more n (remarks n taken), without⟩) ends

/-- Where the first of two parts notes nothing, its offence comes before those of the second. -/
theorem bind {next : α → Run β} {later : Failure → Prop} (first : x.EndsBy (fun _ => False) offence)
    (rest : ∀ a, (next a).EndsBy remark later) :
    (x >>= next).EndsBy remark (fun f => offence f ∨ (∀ g, ¬ offence g) ∧ later f) := by
  rcases first with ⟨⟨a, given⟩, silent, none⟩ | ⟨f, rfl, offends⟩
  · have unnoted : x.notes = [] := List.eq_nil_iff_forall_not_mem.mpr silent
    have same : x >>= next = next a := by rw [bind_of_ok given, unnoted, List.nil_append]
    rw [same]
    refine (rest a).congr (fun f => ⟨fun other => Or.inr ⟨none, other⟩, ?_⟩)
    rintro (offends | ⟨_, other⟩)
    · exact absurd offends (none f)
    · exact other
  · rw [fail_bind]
    exact endsBy_fail (Or.inl offends)

theorem map (ends : x.EndsBy remark offence) (made : α → β) :
    (x >>= fun a => pure (made a)).EndsBy remark offence := by
  rcases ends with ⟨⟨a, given⟩, remarks, none⟩ | ⟨f, rfl, offends⟩
  · refine Or.inl ⟨⟨made a, bind_ok given rfl⟩, ?_, none⟩
    rw [bind_of_ok given, notes_pure, List.append_nil]
    exact remarks
  · rw [fail_bind]
    exact endsBy_fail offends

end EndsBy

end Run

namespace Emission

/-- An operand is out of place, and what is reported of it. -/
inductive Offends (e : Emission codecs) : Slot → Text → Failure → Prop
  | register {t : Text} : Operand.register? t = .ok none → Offends e .register t (.ofCause (.badRegister t))
  | longRegister {t : Text} {o : Operand.Overlong} :
      Operand.register? t = .error o → Offends e .register t (.overlong o)
  | value {t : Text} {v : Int} : Operand.value? t = .ok (some v) → ¬ (0 ≤ v ∧ v ≤ 255) →
      Offends e .source t (.ofCause (.outOfRange t v 255))
  | longValue {t : Text} {o : Operand.Overlong} :
      Operand.value? t = .error o → Offends e .source t (.overlong o)
  /-- What is no number is read as a register. -/
  | source {t : Text} {f : Failure} :
      Operand.value? t = .ok none → Offends e .register t f → Offends e .source t f
  | number {t : Text} {v : Int} : Operand.value? t = .ok (some v) → ¬ (0 ≤ v ∧ v ≤ 4095) →
      Offends e .address t (.ofCause (.outOfRange t v 4095))
  | longNumber {t : Text} {o : Operand.Overlong} :
      Operand.value? t = .error o → Offends e .address t (.overlong o)
  | label {t : Text} : Operand.value? t = .ok none → e.labels.resolve t ≠ LabelTable.undefined →
      ¬ (0 ≤ e.labels.resolve t ∧ e.labels.resolve t ≤ 4095) →
      Offends e .address t (.ofCause (.outOfRange t (e.labels.resolve t) 4095))
  | undefinedLabel {t : Text} : Operand.value? t = .ok none →
      e.labels.resolve t = LabelTable.undefined → e.options.strictLabels = true →
      Offends e .address t (.ofCause (.undefinedLabel t (Text.closeMatches t e.labels.names)))

/-- The leftmost operand that is out of place, and what is reported of it. -/
inductive FirstOffence (e : Emission codecs) : List Slot → List Text → Failure → Prop
  | here {slot : Slot} {slots : List Slot} {t : Text} {ts : List Text} {f : Failure} :
      Offends e slot t f → FirstOffence e (slot :: slots) (t :: ts) f
  | later {slot : Slot} {slots : List Slot} {t : Text} {ts : List Text} {f : Failure} :
      (∀ g, ¬ Offends e slot t g) → FirstOffence e slots ts f →
      FirstOffence e (slot :: slots) (t :: ts) f

/-- An operand of a data line has no bytes under the name of a codec, and what is reported of it. -/
inductive DatumOffends (find : Encoding.Registry) (name : Text) : Text → Failure → Prop
  | unterminated {arg : Text} : Operand.isString arg = true → Operand.string? arg = none →
      DatumOffends find name arg (.ofCause (.badData arg "unterminated or empty string".toList))
  | codec {arg t : Text} {fault : Encoding.Fault} : Operand.string? arg = some t → find name = .error fault →
      DatumOffends find name arg (.encoding fault)
  | character {arg t : Text} {codec : Codec} : Operand.string? arg = some t → find name = .ok codec →
      codec.encode t = .error .unrepresentable →
      DatumOffends find name arg (.ofCause (.badData arg ("not representable in ".toList ++ name)))
  | transfer {arg t : Text} {codec : Codec} {fault : TransferForm.Fault} : Operand.string? arg = some t →
      find name = .ok codec → codec.encode t = .error (.transfer fault) →
      DatumOffends find name arg (.encoding (.refused name fault))
  | number {arg : Text} : Operand.isString arg = false → Operand.value? arg = .ok none →
      DatumOffends find name arg (.ofCause (.badData arg "expected a string or byte value".toList))
  | longNumber {arg : Text} {o : Operand.Overlong} : Operand.isString arg = false →
      Operand.value? arg = .error o → DatumOffends find name arg (.overlong o)
  | value {arg : Text} {v : Int} : Operand.isString arg = false → Operand.value? arg = .ok (some v) →
      ¬ (0 ≤ v ∧ v ≤ 255) → DatumOffends find name arg (.ofCause (.outOfRange arg v 255))

/-- Why a statement cannot be encoded, and what is reported of it. -/
inductive Offence (e : Emission codecs) (s : Statement) : Failure → Prop
  | unknownWord : s.mnemonic ∉ knownWords →
      Offence e s (.ofCause (.unknownMnemonic s.mnemonic (suggestions s.mnemonic)))
  | datum {arg : Text} {f : Failure} : s.mnemonic = dataWord → arg ∈ s.args →
      DatumOffends codecs.find e.options.encodingName arg f → Offence e s f
  | arity {m : Mnemonic} : s.mnemonic = m.name → s.args.length ≠ m.arity →
      Offence e s (.ofCause (.wrongArity s.mnemonic s.args m.arity))
  | operand {m : Mnemonic} {f : Failure} : s.mnemonic = m.name → s.args.length = m.arity →
      FirstOffence e m.slots s.args f → Offence e s f

/-- All that is noted about a statement: that a label it refers to is not bound. -/
def IsRemark (e : Emission codecs) (s : Statement) (n : Note) : Prop :=
  ∃ name, n = .undefinedLabel name ∧ s.RefersTo name ∧ e.labels.resolve name = LabelTable.undefined

variable {e : Emission codecs}

section Operands

variable {remark : Note → Prop}

theorem literal_of_error {t : Text} {o : Operand.Overlong} (read : Operand.value? t = .error o) :
    literal t = .fail (.overlong o) := by
  rw [literal, read]
  rfl

theorem literal_of_ok {t : Text} {v : Option Int} (read : Operand.value? t = .ok v) : literal t = pure v := by
  rw [literal, read]
  rfl

theorem inRange_endsBy (t : Text) (v : Int) (bound : Nat) : (inRange t v bound).EndsBy remark
    (fun f => ¬ (0 ≤ v ∧ v ≤ bound) ∧ f = .ofCause (.outOfRange t v bound)) := by
  by_cases fits : 0 ≤ v ∧ v ≤ bound
  · rw [inRange_of_fits fits]
    exact Run.endsBy_pure (fun f outside => outside.1 fits)
  · rw [inRange_of_outside fits]
    exact Run.endsBy_fail ⟨fits, rfl⟩

theorem register_endsBy (e : Emission codecs) (t : Text) : (register t).EndsBy remark (Offends e .register t) := by
  unfold register
  cases read : Operand.register? t with
  | error o => exact Run.endsBy_fail (.longRegister read)
  | ok found =>
    cases found with
    | none => exact Run.endsBy_fail (.register read)
    | some r =>
      refine Run.endsBy_pure (fun f offends => ?_)
      cases offends <;> simp_all

theorem offends_source_of_value {t : Text} {v : Int} (read : Operand.value? t = .ok (some v)) (f : Failure) :
    ¬ (0 ≤ v ∧ v ≤ 255) ∧ f = .ofCause (.outOfRange t v 255) ↔ Offends e .source t f := by
  constructor
  · rintro ⟨outside, rfl⟩
    exact .value read outside
  · intro offends
    cases offends <;> simp_all

theorem offends_source_of_none {t : Text} (read : Operand.value? t = .ok none) (f : Failure) :
    Offends e .register t f ↔ Offends e .source t f := by
  refine ⟨.source read, fun offends => ?_⟩
  cases offends with
  | source _ inner => exact inner
  | value other | longValue other => simp_all

theorem offends_address_of_value {t : Text} {v : Int} (read : Operand.value? t = .ok (some v)) (f : Failure) :
    ¬ (0 ≤ v ∧ v ≤ 4095) ∧ f = .ofCause (.outOfRange t v 4095) ↔ Offends e .address t f := by
  constructor
  · rintro ⟨outside, rfl⟩
    exact .number read outside
  · intro offends
    cases offends <;> simp_all

theorem offends_address_of_bound {t : Text} (read : Operand.value? t = .ok none)
    (bound : e.labels.resolve t ≠ LabelTable.undefined) (f : Failure) :
    ¬ (0 ≤ e.labels.resolve t ∧ e.labels.resolve t ≤ 4095) ∧
      f = .ofCause (.outOfRange t (e.labels.resolve t) 4095) ↔ Offends e .address t f := by
  constructor
  · rintro ⟨outside, rfl⟩
    exact .label read bound outside
  · intro offends
    cases offends <;> simp_all

/-- A number that does not fit offends, and what is no number is read as a register. -/
theorem setting_endsBy (e : Emission codecs) (dest : Register) (t : Text) :
    (setting dest t).EndsBy remark (Offends e .source t) := by
  unfold setting
  cases read : Operand.value? t with
  | error o =>
    rw [literal_of_error read, Run.fail_bind]
    exact Run.endsBy_fail (.longValue read)
  | ok found =>
    rw [literal_of_ok read, pure_bind]
    cases found with
    | some v => exact ((inRange_endsBy t v 255).congr (offends_source_of_value read)).map _
    | none => exact ((register_endsBy e t).congr (offends_source_of_none read)).map _

theorem address_endsBy (e : Emission codecs) (t : Text) : (e.address t).EndsBy
    (fun n => n = .undefinedLabel t ∧ Operand.value? t = .ok none ∧ e.labels.resolve t = LabelTable.undefined)
    (Offends e .address t) := by
  cases read : Operand.value? t with
  | error o =>
    rw [address, literal_of_error read, Run.fail_bind]
    exact Run.endsBy_fail (.longNumber read)
  | ok found =>
    cases found with
    | some v =>
      rw [address_of_value read]
      exact (inRange_endsBy t v 4095).congr (offends_address_of_value read)
    | none =>
      by_cases unbound : e.labels.resolve t = LabelTable.undefined
      · rw [address_of_unbound read unbound]
        cases strict : e.options.strictLabels with
        | true => exact Run.endsBy_fail (.undefinedLabel read unbound strict)
        | false =>
          refine Or.inl ⟨⟨4095, rfl⟩, fun n taken => ⟨List.mem_singleton.mp taken, rfl, unbound⟩, fun f offends => ?_⟩
          cases offends <;> simp_all
      · rw [address_of_bound read unbound]
        exact (inRange_endsBy t _ 4095).congr (offends_address_of_bound read unbound)

theorem datumOffends_of_string {find : Encoding.Registry} {name arg t : Text} (content : Operand.string? arg = some t)
    {f : Failure} (offends : DatumOffends find name arg f) :
    (∃ fault, find name = .error fault ∧ f = .encoding fault) ∨ ∃ codec, find name = .ok codec ∧
      (codec.encode t = .error .unrepresentable ∧
          f = .ofCause (.badData arg ("not representable in ".toList ++ name)) ∨
        ∃ fault, codec.encode t = .error (.transfer fault) ∧ f = .encoding (.refused name fault)) := by
  have quoted : Operand.isString arg = true := by
    by_contra other
    rw [Operand.string?_of_not_isString (Bool.not_eq_true _ ▸ other)] at content
    cases content
  cases offends <;> simp_all

theorem datumIn_endsBy (find : Encoding.Registry) (name arg : Text) :
    (datumIn find name arg).EndsBy remark (DatumOffends find name arg) := by
  unfold datumIn
  cases quoted : Operand.isString arg with
  | true =>
    rw [if_pos rfl]
    cases content : Operand.string? arg with
    | none => exact Run.endsBy_fail (.unterminated quoted content)
    | some t =>
      dsimp only
      cases found : find name with
      | error fault => exact Run.endsBy_fail (.codec content found)
      | ok codec =>
        have given : Run.ofOutcome ((Except.ok codec).mapError Failure.encoding) = pure codec := rfl
        rw [given, pure_bind]
        cases written : codec.encode t with
        | ok bytes =>
          refine Run.endsBy_pure (fun f offends => ?_)
          rcases datumOffends_of_string content offends with ⟨fault, missing, _⟩ | ⟨other, same, refused⟩
          · cases found.symm.trans missing
          · cases found.symm.trans same
            simp [written] at refused
        | error refusal =>
          cases refusal with
          | unrepresentable => exact Run.endsBy_fail (.character content found written)
          | transfer fault => exact Run.endsBy_fail (.transfer content found written)
  | false =>
    rw [if_neg (by decide)]
    have unquoted := Operand.string?_of_not_isString quoted
    cases read : Operand.value? arg with
    | error o =>
      rw [literal_of_error read, Run.fail_bind]
      exact Run.endsBy_fail (.longNumber quoted read)
    | ok found =>
      rw [literal_of_ok read, pure_bind]
      cases found with
      | none => exact Run.endsBy_fail (.number quoted read)
      | some v =>
        refine ((inRange_endsBy arg v 255).congr (fun f => ?_)).map _
        constructor
        · rintro ⟨outside, rfl⟩
          exact .value quoted read outside
        · intro offends
          cases offends <;> simp_all

/-- The bytes of data are those of its operands, each of which has some or is reported. -/
theorem dataIn_endsBy (find : Encoding.Registry) (name : Text) (args : List Text) :
    (dataIn find name args).EndsBy remark (fun f => ∃ arg ∈ args, DatumOffends find name arg f) := by
  induction args with
  | nil => exact Run.endsBy_pure (fun f ⟨arg, member, _⟩ => (List.not_mem_nil member).elim)
  | cons arg rest ih =>
    refine ((datumIn_endsBy find name arg).bind (fun bytes => ih.map (bytes ++ ·))).imp ?_ ?_
    · rintro f (offends | ⟨_, other, member, offends⟩)
      · exact ⟨arg, List.mem_cons_self, offends⟩
      · exact ⟨other, List.mem_cons_of_mem _ member, offends⟩
    · rintro none f ⟨other, member, offends⟩
      rcases List.mem_cons.mp member with rfl | member
      · exact none f (Or.inl offends)
      · exact none f (Or.inr ⟨fun g here => none g (Or.inl here), other, member, offends⟩)

end Operands

theorem firstOffence_cons_iff {slot : Slot} {slots : List Slot} {t : Text} {ts : List Text} (f : Failure) :
    Offends e slot t f ∨ (∀ g, ¬ Offends e slot t g) ∧ FirstOffence e slots ts f ↔
      FirstOffence e (slot :: slots) (t :: ts) f := by
  constructor
  · rintro (offends | ⟨fits, offence⟩)
    · exact .here offends
    · exact .later fits offence
  · intro offence
    cases offence with
    | here offends => exact Or.inl offends
    | later fits offence => exact Or.inr ⟨fits, offence⟩

theorem firstOffence_single_iff {slot : Slot} {t : Text} (f : Failure) :
    Offends e slot t f ↔ FirstOffence e [slot] [t] f := by
  rw [← firstOffence_cons_iff, or_iff_left]
  rintro ⟨_, none⟩
  cases none

section Instructions

variable {remark : Note → Prop}

theorem one_register_endsBy (e : Emission codecs) (t : Text) (make : Register → Instruction) :
    (register t >>= fun r => pure (make r)).EndsBy remark (FirstOffence e [.register] [t]) :=
  ((register_endsBy e t).congr firstOffence_single_iff).map make

theorem two_registers_endsBy (e : Emission codecs) (t u : Text) (make : Register → Register → Instruction) :
    (register t >>= fun left => register u >>= fun right => pure (make left right)).EndsBy remark
      (FirstOffence e [.register, .register] [t, u]) :=
  ((register_endsBy e t).bind (fun left => one_register_endsBy e u (make left))).congr firstOffence_cons_iff

/-- An instruction with the right number of operands is refused for the leftmost one that is out of
place, and for nothing else. -/
theorem instruction_endsBy (e : Emission codecs) {m : Mnemonic} {s : Statement} (named : s.mnemonic = m.name)
    (count : s.args.length = m.arity) :
    (e.instruction m s).EndsBy (e.IsRemark s) (FirstOffence e m.slots s.args) := by
  cases m with
  | plain op =>
    have args := List.length_eq_zero_iff.mp count
    simp only [instruction, args]
    refine Run.endsBy_pure (fun f offence => ?_)
    cases offence
  | sett =>
    obtain ⟨dest, source, args⟩ := List.length_eq_two.mp count
    simp only [instruction, args]
    exact ((register_endsBy e dest).bind (fun r =>
      (setting_endsBy e r source).congr firstOffence_single_iff)).congr firstOffence_cons_iff
  | address op =>
    obtain ⟨operand, args⟩ := List.length_eq_one_iff.mp count
    have read : s = ⟨op.name, [operand]⟩ := by rw [← args, show op.name = s.mnemonic from named.symm]
    simp only [instruction, args]
    refine (((address_endsBy e operand).congr firstOffence_single_iff).map _).mono ?_
    rintro n ⟨rfl, symbolic, unbound⟩
    exact ⟨operand, rfl, ⟨op, read, symbolic⟩, unbound⟩
  | memory op | stream op =>
    obtain ⟨operand, args⟩ := List.length_eq_one_iff.mp count
    simp only [instruction, args]
    exact one_register_endsBy e operand _
  | alu op | compare op =>
    obtain ⟨first, second, args⟩ := List.length_eq_two.mp count
    simp only [instruction, args]
    exact two_registers_endsBy e first second _

end Instructions

/-- Operands of the wrong number are not looked at. -/
theorem instruction_of_count_ne (e : Emission codecs) {m : Mnemonic} {s : Statement} (wrong : s.args.length ≠ m.arity) :
    e.instruction m s = .fail (.ofCause (.wrongArity s.mnemonic s.args m.arity)) := by
  unfold instruction
  split
  case h_8 => rfl
  all_goals
    rename_i args
    exact absurd (congrArg List.length args) wrong

theorem encode_of_unknown (e : Emission codecs) {s : Statement} (unknown : s.mnemonic ∉ knownWords) :
    e.encode s = .fail (.ofCause (.unknownMnemonic s.mnemonic (suggestions s.mnemonic))) := by
  rw [Mnemonic.mem_knownWords_iff, not_or, not_exists] at unknown
  have none : Mnemonic.ofName? s.mnemonic = none := by
    cases found : Mnemonic.ofName? s.mnemonic with
    | none => rfl
    | some m => exact absurd (Mnemonic.ofName?_eq_some_iff.mp found) (unknown.2 m)
  rw [encode, if_neg unknown.1, none]

theorem offence_iff_of_data {s : Statement} (data : s.mnemonic = dataWord) (f : Failure) :
    (∃ arg ∈ s.args, DatumOffends codecs.find e.options.encodingName arg f) ↔ e.Offence s f := by
  constructor
  · rintro ⟨arg, member, offends⟩
    exact .datum data member offends
  · intro offence
    cases offence with
    | unknownWord unknown => exact absurd (Mnemonic.mem_knownWords_iff.mpr (Or.inl data)) unknown
    | datum _ member offends => exact ⟨_, member, offends⟩
    | @arity m named | @operand m _ named => exact absurd (named.symm.trans data) m.name_ne_dataWord

theorem offence_iff_of_count {m : Mnemonic} {s : Statement} (named : s.mnemonic = m.name)
    (count : s.args.length = m.arity) (f : Failure) : FirstOffence e m.slots s.args f ↔ e.Offence s f := by
  have same {n : Mnemonic} (other : s.mnemonic = n.name) : n = m := Mnemonic.name_inj (other.symm.trans named)
  refine ⟨.operand named count, fun offence => ?_⟩
  cases offence with
  | unknownWord unknown => exact absurd (Mnemonic.mem_knownWords_iff.mpr (Or.inr ⟨m, named⟩)) unknown
  | datum data => exact absurd (named.symm.trans data) m.name_ne_dataWord
  | arity other wrong => exact absurd (same other ▸ count) wrong
  | operand other _ offence => exact same other ▸ offence

/-- A statement is encoded if it has no offence, with no notes but that labels are not bound; and
otherwise it is refused for an offence. -/
theorem encode_endsBy (e : Emission codecs) (s : Statement) : (e.encode s).EndsBy (e.IsRemark s) (e.Offence s) := by
  by_cases known : s.mnemonic ∈ knownWords
  · rcases Mnemonic.mem_knownWords_iff.mp known with data | ⟨m, named⟩
    · rw [encode, if_pos data]
      exact (dataIn_endsBy _ _ s.args).congr (offence_iff_of_data data)
    · rw [encode_of_name e named]
      by_cases count : s.args.length = m.arity
      · exact ((instruction_endsBy e named count).congr (offence_iff_of_count named count)).map Instruction.bytes
      · rw [instruction_of_count_ne e count, Run.fail_bind]
        exact Run.endsBy_fail (.arity named count)
  · rw [encode_of_unknown e known]
    exact Run.endsBy_fail (.unknownWord known)

end Emission

end SledeCode
