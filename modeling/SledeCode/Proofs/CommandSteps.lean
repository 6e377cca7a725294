import SledeCode.Tool.Session

namespace SledeCode

theorem Trouble.exit_report_ne_zero (t : Trouble) (message : Text) (verbose : Bool) (task : Text) :
    (t.report message verbose task).exit ≠ 0 := by
  cases t <;> exact Nat.succ_ne_zero _

/-- The system may not take a text on a stream, and what it says then. -/
def Host.Mutes (h : Host) (stream : Stream) (message : Text) : Prop :=
  ∃ before t, (h.showing stream before t).fault = some message

namespace Command

variable {α β : Type}

/-- However a command ends that starts in a session, its result and the session it leaves are as described. -/
def Ends (c : Command α) (s : Session) (post : Except Failure α → Session → Prop) : Prop :=
  post (c.run.run s).1 (c.run.run s).2

theorem run_bind (c : Command α) (next : α → Command β) (s : Session) :
    (c >>= next).run.run s =
      match c.run.run s with
      | (.ok a, t) => (next a).run.run t
      | (.error failure, t) => (.error failure, t) := by
  have opened : (c >>= next).run.run s =
      StateT.run (ExceptT.bindCont next (c.run.run s).1) (c.run.run s).2 := rfl
  rw [opened]
  rcases c.run.run s with ⟨failure | a, t⟩ <;> rfl

theorem run_perform (verbose : Bool) (run : Run α) (s : Session) :
    (perform verbose run).run.run s = (run.outcome, { s with errors := s.errors ++ shown verbose run.notes }) := by
  unfold perform
  cases run.outcome <;> rfl

theorem run_get_bind (next : Session → Command α) (s : Session) :
    ((get : Command Session) >>= next).run.run s = (next s).run.run s := rfl

theorem run_echo (h : Host) (stream : Stream) (t : Text) (s : Session) :
    (echo h stream t).run.run s =
      let answer := h.showing stream (s.stream stream) t
      (match answer.fault with
        | none => .ok ()
        | some message => .error (.stream message), s.append answer.shown stream) := by
  rw [echo, run_get_bind]
  dsimp only
  cases (h.showing stream (s.stream stream) t).fault <;> rfl

theorem run_readFile (h : Host) (path : Path) (s : Session) :
    (readFile h path).run.run s = ((h.read s.store path).mapError .file, s) := by
  rw [readFile, run_get_bind]
  cases h.read s.store path <;> rfl

theorem run_change (verbose : Bool) (run : FileStore → Run Unit × FileStore) (s : Session) :
    (change verbose run).run.run s = ((run s.store).1.outcome,
      { s with store := (run s.store).2, errors := s.errors ++ shown verbose (run s.store).1.notes }) := by
  rw [change, run_get_bind]
  exact run_perform verbose (run s.store).1 { s with store := (run s.store).2 }

theorem run_writeFile (h : Host) (path : Path) (content : Bytes) (s : Session) :
    (writeFile h path content).run.run s = ((h.write s.store path content).1.mapError .file,
      { s with store := (h.write s.store path content).2 }) := by
  rw [writeFile, run_change]
  simp [Run.ofOutcome, shown]

section Steps

variable {s : Session} {post : Except Failure α → Session → Prop} {unitPost : Except Failure Unit → Session → Prop}

/-- What was done before a failure stays done. -/
theorem ends_bind {c : Command β} {next : β → Command α}
    (first : c.Ends s fun result t =>
      match result with
      | .ok b => (next b).Ends t post
      | .error failure => post (.error failure) t) : (c >>= next).Ends s post := by
  unfold Ends at first ⊢
  rw [run_bind]
  rcases outcome : c.run.run s with ⟨failure | b, t⟩ <;> rw [outcome] at first
  · exact first
  · exact first

theorem ends_pure {a : α} (holds : post (.ok a) s) : (pure a : Command α).Ends s post := holds

theorem ends_get_bind {next : Session → Command α} (rest : (next s).Ends s post) :
    ((get : Command Session) >>= next).Ends s post := rest

theorem ends_echo {h : Host} {stream : Stream} {t : Text}
    (shown : (h.showing stream (s.stream stream) t).fault = none →
      unitPost (.ok ()) (s.append (h.showing stream (s.stream stream) t).shown stream))
    (muted : ∀ message left, h.Mutes stream message → unitPost (.error (.stream message)) (s.append left stream)) :
    (echo h stream t).Ends s unitPost := by
  unfold Ends
  rw [run_echo]
  dsimp only
  cases fault : (h.showing stream (s.stream stream) t).fault with
  | none => exact shown fault
  | some message => exact muted message _ ⟨_, _, fault⟩

/-- A run shows its notes and changes nothing else. -/
theorem ends_perform {verbose : Bool} {run : Run α} (holds : ∀ errors, post run.outcome { s with errors := errors }) :
    (perform verbose run).Ends s post := by
  unfold Ends
  rw [run_perform]
  exact holds _

theorem ends_readFile {h : Host} {path : Path} {bytesPost : Except Failure Bytes → Session → Prop}
    (holds : bytesPost ((h.read s.store path).mapError .file) s) : (readFile h path).Ends s bytesPost := by
  unfold Ends
  rw [run_readFile]
  exact holds

theorem ends_change {verbose : Bool} {run : FileStore → Run Unit × FileStore}
    (holds : ∀ errors, unitPost (run s.store).1.outcome { s with store := (run s.store).2, errors := errors }) :
    (change verbose run).Ends s unitPost := by
  unfold Ends
  rw [run_change]
  exact holds _

theorem ends_writeFile {h : Host} {path : Path} {content : Bytes}
    (holds : unitPost ((h.write s.store path content).1.mapError .file)
      { s with store := (h.write s.store path content).2 }) : (writeFile h path content).Ends s unitPost := by
  unfold Ends
  rw [run_writeFile]
  exact holds

/-- A finished command leaves what its steps leave, but for what is reported. Its exit code is zero
exactly if no step failed. -/
theorem finish_of_ends {steps : Command Unit} {store : FileStore} (ends : steps.Ends ⟨store, [], []⟩ unitPost)
    (h : Host) (verbose : Bool) (task : Text) :
    ∃ result t, unitPost result t ∧ (steps.finish h store verbose task).session.store = t.store ∧
      (steps.finish h store verbose task).session.output = t.output ∧
      ((steps.finish h store verbose task).exit = 0 ↔ result = .ok ()) := by
  unfold Ends at ends
  unfold finish
  rcases outcome : steps.run.run ⟨store, [], []⟩ with ⟨failure | ⟨⟩, t⟩ <;> rw [outcome] at ends
  · refine ⟨.error failure, t, ends, rfl, rfl, fun zero => ?_, fun ok => ?_⟩
    · dsimp only at zero
      split at zero
      · exact absurd zero (failure.trouble.exit_report_ne_zero _ _ _)
      · cases zero
    · cases ok
  · exact ⟨.ok (), t, ends, rfl, rfl, fun _ => rfl, fun _ => rfl⟩

end Steps

end Command

end SledeCode
