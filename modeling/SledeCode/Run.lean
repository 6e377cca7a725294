import SledeCode.Failure
import SledeCode.Note
import SledeCode.Results

namespace SledeCode

/-- A result, or the failure that prevented it, with the notes taken on the way. -/
structure Run (α : Type) where
  notes : List Note
  outcome : Except Failure α

namespace Run

variable {α β : Type}

def ofOutcome (outcome : Except Failure α) : Run α := ⟨[], outcome⟩

def note (n : Note) : Run Unit := ⟨[n], .ok ()⟩

def fail (e : Failure) : Run α := ⟨[], .error e⟩

/-- Goes on with a result; the notes of both parts are kept in order. -/
def andThen (x : Run α) (next : α → Run β) : Run β :=
  match x.outcome with
  | .ok a => ⟨x.notes ++ (next a).notes, (next a).outcome⟩
  | .error e => ⟨x.notes, .error e⟩

instance : Monad Run where
  pure a := ⟨[], .ok a⟩
  bind := andThen

/-- Changes the failure, if there is one. -/
def mapFailure (f : Failure → Failure) (x : Run α) : Run α :=
  ⟨x.notes, x.outcome.mapError f⟩

@[simp] theorem outcome_pure (a : α) : (pure a : Run α).outcome = .ok a := rfl

@[simp] theorem notes_pure (a : α) : (pure a : Run α).notes = [] := rfl

@[simp] theorem outcome_fail (e : Failure) : (fail e : Run α).outcome = .error e := rfl

@[simp] theorem notes_fail (e : Failure) : (fail e : Run α).notes = [] := rfl

theorem bind_of_ok {x : Run α} {a : α} (done : x.outcome = .ok a) (next : α → Run β) :
    x >>= next = ⟨x.notes ++ (next a).notes, (next a).outcome⟩ := by
  show x.andThen next = _
  rw [andThen, done]

theorem bind_of_error {x : Run α} {e : Failure} (failed : x.outcome = .error e) (next : α → Run β) :
    x >>= next = ⟨x.notes, .error e⟩ := by
  show x.andThen next = _
  rw [andThen, failed]

theorem fail_bind (e : Failure) (next : α → Run β) : (fail e : Run α) >>= next = fail e := rfl

theorem map_id (x : Run α) : id <$> x = x := by
  obtain ⟨notes, result⟩ := x
  cases result with
  | ok a => exact congrArg (Run.mk · (.ok a)) (List.append_nil notes)
  | error e => rfl

theorem bind_assoc {γ : Type} (x : Run α) (f : α → Run β) (g : β → Run γ) :
    x >>= f >>= g = x >>= fun a => f a >>= g := by
  cases first : x.outcome with
  | error e => rw [bind_of_error first, bind_of_error first, bind_of_error rfl]
  | ok a =>
    rw [bind_of_ok first, bind_of_ok first]
    cases second : (f a).outcome with
    | error e => rw [bind_of_error second, bind_of_error rfl]
    | ok b =>
      rw [bind_of_ok second, bind_of_ok rfl]
      exact congrArg (Run.mk · (g b).outcome) (List.append_assoc ..)

instance : LawfulMonad Run := .mk' Run map_id (fun _ _ => rfl) bind_assoc

theorem outcome_bind (x : Run α) (next : α → Run β) :
    (x >>= next).outcome = x.outcome.bind fun a => (next a).outcome := by
  cases first : x.outcome with
  | ok a => rw [bind_of_ok first]; rfl
  | error e => rw [bind_of_error first]; rfl

theorem bind_eq_ok_iff {x : Run α} {next : α → Run β} {b : β} :
    (x >>= next).outcome = .ok b ↔ ∃ a, x.outcome = .ok a ∧ (next a).outcome = .ok b := by
  rw [outcome_bind]
  exact SledeCode.bind_eq_ok_iff

theorem bind_ok {x : Run α} {next : α → Run β} {a : α} {b : β} (first : x.outcome = .ok a)
    (rest : (next a).outcome = .ok b) : (x >>= next).outcome = .ok b :=
  bind_eq_ok_iff.mpr ⟨a, first, rest⟩

/-- A run in two parts notes what its parts note; the second starts from what the first has given. -/
theorem mem_notes_bind_iff {x : Run α} {next : α → Run β} {n : Note} :
    n ∈ (x >>= next).notes ↔ n ∈ x.notes ∨ ∃ a, x.outcome = .ok a ∧ n ∈ (next a).notes := by
  cases first : x.outcome with
  | ok a => simp [bind_of_ok first]
  | error e => simp [bind_of_error first]

/-- Taking a note on some condition changes no outcome. -/
theorem outcome_noted (condition : Prop) [Decidable condition] (n : Note) (next : Run α) :
    (if condition then (do note n; next) else next).outcome = next.outcome := by
  split
  · rw [outcome_bind]
    rfl
  · rfl

theorem ofOutcome_mapError_eq_ok_iff {ε : Type} {x : Except ε α} {f : ε → Failure} {a : α} :
    (ofOutcome (x.mapError f)).outcome = .ok a ↔ x = .ok a := mapError_eq_ok_iff

theorem mapFailure_eq_ok_iff {x : Run α} {f : Failure → Failure} {a : α} :
    (x.mapFailure f).outcome = .ok a ↔ x.outcome = .ok a := mapError_eq_ok_iff

end Run

end SledeCode
