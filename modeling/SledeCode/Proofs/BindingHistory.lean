import Mathlib.Data.List.Basic
import Mathlib.Data.List.Induction
import SledeCode.LabelTable

namespace SledeCode.LabelTable

/-- Binds names one after the other. -/
def bindAll (t : LabelTable) (binds : List (Text × Int)) : LabelTable :=
  binds.foldl (fun t b => t.bind b.1 b.2) t

theorem bindAll_append_singleton (t : LabelTable) (binds : List (Text × Int)) (name : Text) (address : Int) :
    t.bindAll (binds ++ [(name, address)]) = (t.bindAll binds).bind name address := by
  simp [bindAll]

section Step

variable (t : LabelTable) (name : Text) (address : Int)

theorem size_bind : (t.bind name address).size = t.size + 1 := by
  simp [size, bind]

theorem contains_bind (other : Text) :
    (t.bind name address).contains other = (t.contains other || name == other) := by
  simp [contains, bind]

theorem isSome_find? : (t.find? name).isSome = t.contains name := by
  rw [Bool.eq_iff_iff, find?, List.lookup_isSome_iff, contains, List.any_eq_true]
  simp only [beq_iff_eq, eq_comm (a := name)]

/-- A name that is bound keeps its address, whatever is bound next. -/
theorem resolve_bind (other : Text) :
    (t.bind name address).resolve other =
      if t.contains other then t.resolve other else if other = name then address else undefined := by
  have joined : (t.bind name address).find? other =
      (t.find? other).or (if other = name then some address else none) := by
    rw [find?, bind, List.lookup_append, List.lookup_cons]
    split <;> simp_all [find?]
  rw [resolve, joined, ← isSome_find?]
  cases found : t.find? other with
  | some first => simp [resolve, found]
  | none => by_cases same : other = name <;> simp [same]

theorem names_bind :
    (t.bind name address).names = if t.contains name then t.names else t.names ++ [name] := by
  have bound : t.contains name = (t.bindings.map (·.1)).elem name := by
    rw [Bool.eq_iff_iff, contains, List.any_eq_true, List.elem_iff, List.mem_map]
    simp only [beq_iff_eq]
  have added : [name].removeAll (t.bindings.map (·.1)) = if t.contains name then [] else [name] := by
    rw [List.removeAll, List.filter_cons, List.filter_nil, bound]
    cases (t.bindings.map (·.1)).elem name <;> rfl
  rw [names, bind, List.map_append, List.eraseDups_append, List.map_singleton, added]
  split
  · exact List.append_nil _
  · rfl

theorem firstOfEach_append_singleton (bs : List (Text × Int)) (b : Text × Int) :
    firstOfEach (bs ++ [b]) =
      if bs.any (fun other => other.1 == b.1) then firstOfEach bs else firstOfEach bs ++ [b] := by
  induction bs with
  | nil => rfl
  | cons first rest ih =>
    rw [List.cons_append, firstOfEach, ih, List.any_cons]
    by_cases same : first.1 = b.1
    · -- The last pair is dropped for the first, whether or not one between them drops it too.
      have dropped : (firstOfEach rest ++ [b]).filter (fun other => other.1 != first.1) =
          (firstOfEach rest).filter fun other => other.1 != first.1 := by
        simp [same]
      rw [beq_iff_eq.mpr same, Bool.true_or, if_pos rfl, firstOfEach]
      split
      · rfl
      · rw [dropped]
    · have kept : (firstOfEach rest ++ [b]).filter (fun other => other.1 != first.1) =
          (firstOfEach rest).filter (fun other => other.1 != first.1) ++ [b] := by
        simp [Ne.symm same]
      rw [beq_eq_false_iff_ne.mpr same, Bool.false_or]
      split
      · rw [firstOfEach]
      · rw [kept, firstOfEach, List.cons_append]

theorem firstBindings_bind :
    (t.bind name address).firstBindings =
      if t.contains name then t.firstBindings else t.firstBindings ++ [(name, address)] :=
  firstOfEach_append_singleton t.bindings (name, address)

end Step

/-- The first of the bindings of a name gives it this address. -/
def IsEarliest (history : List (Text × Int)) (name : Text) (address : Int) : Prop :=
  ∃ before after, history = before ++ (name, address) :: after ∧ ∀ b ∈ before, b.1 ≠ name

theorem IsEarliest.mem {history : List (Text × Int)} {name : Text} {address : Int}
    (earliest : IsEarliest history name address) : name ∈ history.map (·.1) := by
  obtain ⟨before, after, rfl, _⟩ := earliest
  simp

theorem isEarliest_append_singleton {history : List (Text × Int)} {name other : Text} {address first : Int} :
    IsEarliest (history ++ [(name, address)]) other first ↔
      IsEarliest history other first ∨ other ∉ history.map (·.1) ∧ other = name ∧ first = address := by
  constructor
  · rintro ⟨before, after, split, fresh⟩
    rcases List.eq_nil_or_concat' after with rfl | ⟨front, last, rfl⟩
    · obtain ⟨rfl, same⟩ := List.append_inj' split rfl
      cases same
      refine Or.inr ⟨fun member => ?_, rfl, rfl⟩
      obtain ⟨b, listed, same⟩ := List.mem_map.mp member
      exact fresh b listed same
    · have whole : history ++ [(name, address)] = (before ++ (other, first) :: front) ++ [last] := by
        simpa using split
      obtain ⟨rfl, _⟩ := List.append_inj' whole rfl
      exact Or.inl ⟨before, front, rfl, fresh⟩
  · rintro (⟨before, after, rfl, fresh⟩ | ⟨unbound, rfl, rfl⟩)
    · exact ⟨before, after ++ [(name, address)], by simp, fresh⟩
    · exact ⟨history, [], rfl, fun b listed same => unbound (List.mem_map.mpr ⟨b, listed, same⟩)⟩

/-- What a table answers after a history of bindings, and how its answers agree with each other. -/
structure Recalls (t : LabelTable) (history : List (Text × Int)) : Prop where
  resolve_iff : ∀ name address, t.resolve name = address ↔
    IsEarliest history name address ∨ name ∉ history.map (·.1) ∧ address = undefined
  mem_names : ∀ name, name ∈ t.names ↔ name ∈ history.map (·.1)
  names_nodup : t.names.Nodup
  /-- Names come in the order of their first bindings. -/
  names_ordered : t.names.Pairwise fun name later =>
    (history.map (·.1)).idxOf name < (history.map (·.1)).idxOf later
  firstBindings_eq : t.firstBindings = t.names.map fun name => (name, t.resolve name)
  contains_iff : ∀ name, t.contains name = true ↔ name ∈ t.names
  size_eq : t.size = history.length

namespace Recalls

variable {t : LabelTable} {history : List (Text × Int)}

theorem contains_iff_bound (recalls : t.Recalls history) (name : Text) :
    t.contains name = true ↔ name ∈ history.map (·.1) :=
  (recalls.contains_iff name).trans (recalls.mem_names name)

theorem mem_names_bind (recalls : t.Recalls history) (name : Text) (address : Int) (other : Text) :
    other ∈ (t.bind name address).names ↔ other ∈ t.names ∨ other = name := by
  rw [names_bind]
  split
  · rename_i bound
    refine ⟨Or.inl, ?_⟩
    rintro (listed | rfl)
    · exact listed
    · exact (recalls.contains_iff other).mp bound
  · simp

theorem names_ordered_bind (recalls : t.Recalls history) (name : Text) (address : Int) :
    (t.bind name address).names.Pairwise fun former later =>
      ((history ++ [(name, address)]).map (·.1)).idxOf former <
        ((history ++ [(name, address)]).map (·.1)).idxOf later := by
  -- Places in the history do not move when it grows at its end.
  have place {other : Text} (listed : other ∈ t.names) :
      ((history ++ [(name, address)]).map (·.1)).idxOf other = (history.map (·.1)).idxOf other := by
    rw [List.map_append, List.idxOf_append, if_pos ((recalls.mem_names other).mp listed)]
  have ordered : t.names.Pairwise fun former later =>
      ((history ++ [(name, address)]).map (·.1)).idxOf former <
        ((history ++ [(name, address)]).map (·.1)).idxOf later := by
    refine recalls.names_ordered.imp_of_mem (fun former later before => ?_)
    rwa [place former, place later]
  rw [names_bind]
  split
  · exact ordered
  · rename_i fresh
    rw [List.pairwise_append]
    refine ⟨ordered, List.pairwise_singleton _ _, fun former listed later last => ?_⟩
    have unbound : name ∉ history.map (·.1) := fun bound => fresh ((recalls.contains_iff_bound name).mpr bound)
    have before : (history.map (·.1)).idxOf former < (history.map (·.1)).length :=
      List.idxOf_lt_length_iff.mpr ((recalls.mem_names former).mp listed)
    rw [List.mem_singleton.mp last, place listed, List.map_append, List.idxOf_append, if_neg unbound]
    omega

theorem firstBindings_bind (recalls : t.Recalls history) (name : Text) (address : Int) :
    (t.bind name address).firstBindings =
      (t.bind name address).names.map fun other => (other, (t.bind name address).resolve other) := by
  have kept : t.names.map (fun other => (other, (t.bind name address).resolve other)) = t.firstBindings := by
    rw [recalls.firstBindings_eq]
    refine List.map_congr_left (fun other listed => ?_)
    rw [resolve_bind, if_pos ((recalls.contains_iff other).mpr listed)]
  rw [LabelTable.firstBindings_bind, names_bind]
  split
  · exact kept.symm
  · rename_i fresh
    rw [List.map_append, kept, List.map_singleton, resolve_bind, if_neg fresh, if_pos rfl]

theorem resolve_bind_iff (recalls : t.Recalls history) (name : Text) (address : Int) (other : Text) (found : Int) :
    (t.bind name address).resolve other = found ↔
      IsEarliest (history ++ [(name, address)]) other found ∨
        other ∉ (history ++ [(name, address)]).map (·.1) ∧ found = undefined := by
  rw [resolve_bind, isEarliest_append_singleton]
  by_cases bound : t.contains other = true
  · have listed := (recalls.contains_iff_bound other).mp bound
    rw [if_pos bound, recalls.resolve_iff]
    simp [listed]
  · have unbound : other ∉ history.map (·.1) := fun listed => bound ((recalls.contains_iff_bound other).mpr listed)
    have none : ¬IsEarliest history other found := fun earliest => unbound earliest.mem
    rw [if_neg bound]
    by_cases same : other = name
    · subst same
      simp [none, unbound, eq_comm]
    · simp [same, none, unbound, eq_comm]

/-- Binding one more name takes the answers to those for the longer history. -/
theorem bind (recalls : t.Recalls history) (name : Text) (address : Int) :
    (t.bind name address).Recalls (history ++ [(name, address)]) where
  resolve_iff := recalls.resolve_bind_iff name address
  mem_names := by
    intro other
    rw [recalls.mem_names_bind, recalls.mem_names]
    simp
  names_nodup := (recalls.names_ordered_bind name address).imp fun before same => by
    rw [same] at before
    exact Nat.lt_irrefl _ before
  names_ordered := recalls.names_ordered_bind name address
  firstBindings_eq := recalls.firstBindings_bind name address
  contains_iff := by
    intro other
    rw [contains_bind, recalls.mem_names_bind, Bool.or_eq_true, recalls.contains_iff, beq_iff_eq, eq_comm (a := name)]
  size_eq := by
    rw [size_bind, recalls.size_eq, List.length_append, List.length_singleton]

end Recalls

theorem recalls_bindAll (history : List (Text × Int)) : (empty.bindAll history).Recalls history := by
  induction history using List.reverseRecOn with
  | nil =>
    exact {
      resolve_iff := by
        intro name address
        have none : ¬IsEarliest [] name address := fun earliest => List.not_mem_nil earliest.mem
        show undefined = address ↔ _
        simp [none, eq_comm]
      mem_names := by simp [bindAll, empty, names]
      names_nodup := List.nodup_nil
      names_ordered := List.Pairwise.nil
      firstBindings_eq := rfl
      contains_iff := by simp [bindAll, empty, contains, names]
      size_eq := rfl }
  | append_singleton history b ih =>
    rw [bindAll_append_singleton]
    exact ih.bind b.1 b.2

/-- No later binding changes the address of a name that is bound. -/
theorem resolve_bindAll {t : LabelTable} {name : Text} (bound : t.contains name = true) (later : List (Text × Int)) :
    (t.bindAll later).contains name = true ∧ (t.bindAll later).resolve name = t.resolve name := by
  induction later using List.reverseRecOn with
  | nil => exact ⟨bound, rfl⟩
  | append_singleton later b ih =>
    rw [bindAll_append_singleton, contains_bind, resolve_bind, if_pos ih.1, ih.1, ih.2]
    exact ⟨rfl, rfl⟩

theorem Recalls.bindNotes_cases {t : LabelTable} {history : List (Text × Int)} (recalls : t.Recalls history)
    (name : Text) (address : Int) :
    (∃ first, IsEarliest history name first ∧ t.bindNotes name address = [.labelRedefined name address first]) ∨
      name ∉ history.map (·.1) ∧ t.bindNotes name address = [] := by
  rw [bindNotes]
  by_cases bound : t.contains name = true
  · have listed := (recalls.contains_iff_bound name).mp bound
    rcases (recalls.resolve_iff name (t.resolve name)).mp rfl with earliest | ⟨unbound, _⟩
    · exact Or.inl ⟨t.resolve name, earliest, if_pos bound⟩
    · exact absurd listed unbound
  · exact Or.inr ⟨fun listed => bound ((recalls.contains_iff_bound name).mpr listed), if_neg bound⟩

/-- The first binding of a name counts, after any history of bindings. All the ways to ask a table
agree on it, later bindings leave it alone, and to bind the name once more is noted with the address
of its first binding, while to bind a new name is not noted. -/
theorem first_binding_wins (history : List (Text × Int)) :
    (empty.bindAll history).Recalls history ∧
      (∀ name ∈ history.map (·.1), ∀ later,
        ((empty.bindAll history).bindAll later).resolve name = (empty.bindAll history).resolve name) ∧
      ∀ name address,
        (∃ first, IsEarliest history name first ∧
          (empty.bindAll history).bindNotes name address = [.labelRedefined name address first]) ∨
        name ∉ history.map (·.1) ∧ (empty.bindAll history).bindNotes name address = [] := by
  have recalls := recalls_bindAll history
  refine ⟨recalls, fun name listed later => ?_, recalls.bindNotes_cases⟩
  exact (resolve_bindAll ((recalls.contains_iff_bound name).mpr listed) later).2

example : (empty.bindAll [(['a'], 0xFFFF), (['b'], 2), (['a'], 3)]).firstBindings = [(['a'], 0xFFFF), (['b'], 2)] := by
  decide

end SledeCode.LabelTable
