import Mathlib.Data.List.Forall2
import SledeCode.Failure
import SledeCode.Results

namespace SledeCode

/-- Of steps taken in order, the one at index `k` is the first to fail. -/
structure FailsFirst {α β : Type} (step : α → Except Failure β) (xs : List α) (k : Nat) (x : α)
    (f : Failure) : Prop where
  found : xs[k]? = some x
  fails : step x = .error f
  earlier : ∀ y ∈ xs.take k, ∃ b, step y = .ok b

section Steps

variable {α β : Type} {step : α → Except Failure β}

theorem mapM_cons_of_error (step : α → Except Failure β) {x : α} {f : Failure} (failed : step x = .error f)
    (xs : List α) :
    (x :: xs).mapM step = .error f := by
  rw [List.mapM_cons, failed]
  rfl

theorem mapM_cons_of_ok (step : α → Except Failure β) {x : α} {b : β} (done : step x = .ok b) (xs : List α) :
    (x :: xs).mapM step = (xs.mapM step).map (b :: ·) := by
  rw [List.mapM_cons, done]
  rfl

theorem mapM_eq_ok_iff {xs : List α} {bs : List β} :
    xs.mapM step = .ok bs ↔ List.Forall₂ (fun x b => step x = .ok b) xs bs := by
  induction xs generalizing bs with
  | nil =>
    rw [List.forall₂_nil_left_iff]
    exact ⟨fun same => (Except.ok.inj same).symm, fun empty => by rw [empty]; rfl⟩
  | cons x xs ih =>
    rw [List.forall₂_cons_left_iff]
    constructor
    · intro done
      cases first : step x with
      | error f =>
        rw [mapM_cons_of_error step first] at done
        cases done
      | ok b =>
        rw [mapM_cons_of_ok step first] at done
        obtain ⟨others, rest, same⟩ := map_eq_ok_iff.mp done
        exact ⟨b, others, rfl, ih.mp rest, same.symm⟩
    · rintro ⟨b, others, first, later, rfl⟩
      rw [mapM_cons_of_ok step first, ih.mpr later]
      rfl

/-- Taking steps in order fails with the first failure among them. -/
theorem mapM_eq_error_iff {xs : List α} {f : Failure} :
    xs.mapM step = .error f ↔ ∃ k x, FailsFirst step xs k x f := by
  induction xs with
  | nil =>
    constructor
    · intro failed
      cases failed
    · rintro ⟨k, x, first⟩
      have found := first.found
      simp at found
  | cons x xs ih =>
    cases here : step x with
    | error e =>
      rw [mapM_cons_of_error step here]
      constructor
      · intro failed
        cases failed
        exact ⟨0, x, rfl, here, by simp⟩
      · rintro ⟨_ | k, y, found, fails, earlier⟩
        · cases found
          rw [Except.error.inj (here.symm.trans fails)]
        · obtain ⟨b, done⟩ := earlier x (by simp)
          rw [here] at done
          cases done
    | ok b =>
      rw [mapM_cons_of_ok step here, map_eq_error_iff, ih]
      constructor
      · rintro ⟨k, y, found, fails, earlier⟩
        refine ⟨k + 1, y, found, fails, ?_⟩
        rw [List.take_succ_cons, List.forall_mem_cons]
        exact ⟨⟨b, here⟩, earlier⟩
      · rintro ⟨_ | k, y, found, fails, earlier⟩
        · cases found
          rw [here] at fails
          cases fails
        · rw [List.take_succ_cons, List.forall_mem_cons] at earlier
          exact ⟨k, y, found, fails, earlier.2⟩

/-- Steps in order fail at all exactly if one of them does. -/
theorem exists_mapM_eq_error_iff {xs : List α} :
    (∃ f, xs.mapM step = .error f) ↔ ∃ x ∈ xs, ∃ f, step x = .error f := by
  constructor
  · rintro ⟨f, failed⟩
    obtain ⟨k, x, first⟩ := mapM_eq_error_iff.mp failed
    exact ⟨x, List.mem_of_getElem? first.found, f, first.fails⟩
  · rintro ⟨x, member, f, fails⟩
    cases whole : xs.mapM step with
    | error e => exact ⟨e, rfl⟩
    | ok bs =>
      have all := mapM_eq_ok_iff.mp whole
      have every : ∀ y ∈ xs, ∃ b, step y = .ok b := by
        clear whole member
        induction all with
        | nil => simp
        | cons here _ ih => exact List.forall_mem_cons.mpr ⟨⟨_, here⟩, ih⟩
      obtain ⟨b, done⟩ := every x member
      rw [fails] at done
      cases done

/-- Changing the failure of each step does not change which step fails first. -/
theorem failsFirst_mapError_iff {xs : List α} {k : Nat} {x : α} {f : Failure} {change : α → Failure → Failure} :
    FailsFirst (fun x => (step x).mapError (change x)) xs k x f ↔
      ∃ g, FailsFirst step xs k x g ∧ f = change x g := by
  constructor
  · rintro ⟨found, fails, earlier⟩
    obtain ⟨g, here, same⟩ := mapError_eq_error_iff.mp fails
    refine ⟨g, ⟨found, here, fun y member => ?_⟩, same⟩
    obtain ⟨b, done⟩ := earlier y member
    exact ⟨b, mapError_eq_ok_iff.mp done⟩
  · rintro ⟨g, ⟨found, fails, earlier⟩, rfl⟩
    refine ⟨found, mapError_eq_error_iff.mpr ⟨g, fails, rfl⟩, fun y member => ?_⟩
    obtain ⟨b, done⟩ := earlier y member
    exact ⟨b, mapError_eq_ok_iff.mpr done⟩

/-- A step that fails first still does so if the steps that succeed are kept. -/
theorem FailsFirst.transfer {step' : α → Except Failure β} {xs : List α} {k : Nat} {x : α} {f : Failure}
    (first : FailsFirst step xs k x f) (kept : ∀ y b, step y = .ok b → step' y = .ok b)
    (fails : step' x = .error f) : FailsFirst step' xs k x f where
  found := first.found
  fails := fails
  earlier z member := by
    obtain ⟨b, done⟩ := first.earlier z member
    exact ⟨b, kept z b done⟩

/-- Once the step that fails first passes too, the next failure comes behind it. -/
theorem FailsFirst.lt_of_passed {step' : α → Except Failure β} {xs : List α} {k j : Nat} {x y : α} {f g : Failure}
    (first : FailsFirst step xs k x f) (kept : ∀ y b, step y = .ok b → step' y = .ok b)
    (passed : ∃ b, step' x = .ok b) (second : FailsFirst step' xs j y g) : k < j := by
  have succeeds : ¬ ∃ b, step' y = .ok b := by
    rintro ⟨b, done⟩
    cases second.fails.symm.trans done
  rcases Nat.lt_trichotomy k j with before | rfl | after
  · exact before
  · cases first.found.symm.trans second.found
    exact absurd passed succeeds
  · have taken : (xs.take k)[j]? = some y := by rw [List.getElem?_take_of_lt after, second.found]
    obtain ⟨b, done⟩ := first.earlier y (List.mem_of_getElem? taken)
    exact absurd ⟨b, kept y b done⟩ succeeds

end Steps

end SledeCode
