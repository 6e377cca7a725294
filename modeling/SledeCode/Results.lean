namespace SledeCode

variable {ε ε' α β : Type}

theorem bind_eq_ok_iff {x : Except ε α} {next : α → Except ε β} {b : β} :
    x >>= next = .ok b ↔ ∃ a, x = .ok a ∧ next a = .ok b := by
  cases x with
  | error e => exact ⟨nofun, nofun⟩
  | ok a => exact ⟨fun done => ⟨a, rfl, done⟩, fun ⟨_, same, done⟩ => Except.ok.inj same ▸ done⟩

theorem map_eq_ok_iff {finish : α → β} {x : Except ε α} {b : β} :
    x.map finish = .ok b ↔ ∃ a, x = .ok a ∧ finish a = b := by
  cases x with
  | error e => exact ⟨nofun, nofun⟩
  | ok a => exact ⟨fun done => ⟨a, rfl, Except.ok.inj done⟩, fun ⟨_, same, done⟩ => done ▸ Except.ok.inj same ▸ rfl⟩

theorem map_eq_error_iff (finish : α → β) {x : Except ε α} {e : ε} : x.map finish = .error e ↔ x = .error e := by
  cases x with
  | error d => exact ⟨fun same => Except.error.inj same ▸ rfl, fun same => Except.error.inj same ▸ rfl⟩
  | ok a => exact ⟨nofun, nofun⟩

theorem mapError_eq_error_iff {x : Except ε α} {change : ε → ε'} {e : ε'} :
    x.mapError change = .error e ↔ ∃ d, x = .error d ∧ e = change d := by
  cases x with
  | error d =>
    exact ⟨fun same => ⟨d, rfl, (Except.error.inj same).symm⟩, fun ⟨_, same, changed⟩ =>
      changed ▸ Except.error.inj same ▸ rfl⟩
  | ok a => exact ⟨nofun, nofun⟩

theorem mapError_eq_ok_iff {x : Except ε α} {change : ε → ε'} {a : α} : x.mapError change = .ok a ↔ x = .ok a := by
  cases x with
  | error e => exact ⟨nofun, nofun⟩
  | ok b => exact ⟨fun same => Except.ok.inj same ▸ rfl, fun same => Except.ok.inj same ▸ rfl⟩

end SledeCode
