import SledeCode.Tool.Host

namespace SledeCode

namespace FileStore

/-- A part of a path that leads one directory further down. -/
structure IsName (part : Text) : Prop where
  named : ¬ (part = [] ∨ part = ['.'])
  down : part ≠ ['.', '.']
  short : (Utf8.encode part).length ≤ longestName

/-- The parts of a path, taken one after the other, lead from one place to another and pass only
directories on their way, with links followed. Nothing is said about what is at the end. -/
inductive Passes (s : FileStore) : List Text → List Text → List Text → Prop
  | done (place : List Text) : Passes s place [] place
  | stay {place last : List Text} {part : Text} {rest : List Text} :
      s.isDirectory place = true → part = [] ∨ part = ['.'] → Passes s place rest last →
      Passes s place (part :: rest) last
  | up {place last : List Text} {rest : List Text} :
      s.isDirectory place = true → Passes s place.dropLast rest last →
      Passes s place (['.', '.'] :: rest) last
  | down {place last : List Text} {part : Text} {rest : List Text} :
      s.isDirectory place = true → IsName part → Passes s (s.resolve (place ++ [part])) rest last →
      Passes s place (part :: rest) last

/-- Where a file is, or where one can be added. -/
def Place.target? : Place → Option (List Text)
  | .file place _ => some place
  | .free place => some place
  | _ => none

theorem Passes.follow_eq {s : FileStore} {place last parts : List Text} (passes : s.Passes place parts last) :
    s.follow place parts = s.follow last [] := by
  induction passes with
  | done => rfl
  | stay directory same _ ih => rw [← ih, follow, if_pos directory, if_pos same]
  | up directory _ ih => rw [← ih, follow, if_pos directory, if_neg (by simp), if_pos rfl]
  | down directory name _ ih =>
    rw [← ih, follow, if_pos directory, if_neg name.named, if_neg name.down, if_neg (Nat.not_lt.mpr name.short)]

theorem target?_follow_nil {s : FileStore} {place last : List Text}
    (found : (s.follow place []).target? = some last) : place = last := by
  rw [follow] at found
  split at found
  · exact Option.some.inj found
  · split at found
    · cases found
    · exact Option.some.inj found

theorem passes_of_follow {s : FileStore} {place last parts : List Text}
    (found : (s.follow place parts).target? = some last) : s.Passes place parts last := by
  induction parts generalizing place with
  | nil => exact target?_follow_nil found ▸ .done place
  | cons part rest ih =>
    rw [follow] at found
    split at found
    · rename_i directory
      split at found
      · rename_i same
        exact .stay directory same (ih found)
      · rename_i named
        split at found
        · rename_i parent
          exact parent ▸ .up directory (ih found)
        · rename_i down
          split at found
          · cases found
          · rename_i short
            exact .down directory ⟨named, down, Nat.not_lt.mp short⟩ (ih found)
    · split at found <;> cases found

theorem Passes.unique {s : FileStore} {place last other parts : List Text} (passes : s.Passes place parts last)
    (again : s.Passes place parts other) : last = other := by
  induction passes with
  | done => cases again; rfl
  | stay _ same _ ih =>
    cases again with
    | stay _ _ rest => exact ih rest
    | up => simp at same
    | down _ name _ => exact absurd same name.named
  | up _ _ ih =>
    cases again with
    | stay _ same _ => simp at same
    | up _ rest => exact ih rest
    | down _ name _ => exact absurd rfl name.down
  | down _ name _ ih =>
    cases again with
    | stay _ same _ => exact absurd same name.named
    | up => exact absurd rfl name.down
    | down _ _ rest => exact ih rest

theorem Passes.mono {s t : FileStore} (kept : ∀ place, s.isDirectory place = true → t.isDirectory place = true)
    (links : t.links = s.links) {place last parts : List Text} (passes : s.Passes place parts last) :
    t.Passes place parts last := by
  induction passes with
  | done place => exact .done place
  | stay directory same _ ih => exact .stay (kept _ directory) same ih
  | up directory _ ih => exact .up (kept _ directory) ih
  | down directory name _ ih =>
    refine .down (kept _ directory) name ?_
    rw [resolve, links]
    exact ih

/-- The parts but the last lead to a place from which the last part goes on. -/
theorem Passes.split_last {s : FileStore} {place last : List Text} {parts : List Text} {part : Text}
    (passes : s.Passes place (parts ++ [part]) last) :
    ∃ before, s.Passes place parts before ∧ s.Passes before [part] last := by
  induction parts generalizing place with
  | nil => exact ⟨place, .done place, passes⟩
  | cons first rest ih =>
    cases passes with
    | stay directory same later =>
      obtain ⟨before, reached, final⟩ := ih later
      exact ⟨before, .stay directory same reached, final⟩
    | up directory later =>
      obtain ⟨before, reached, final⟩ := ih later
      exact ⟨before, .up directory reached, final⟩
    | down directory name later =>
      obtain ⟨before, reached, final⟩ := ih later
      exact ⟨before, .down directory name reached, final⟩

/-- Where a single part leads: nowhere else, one directory up, or down to a name. -/
theorem Passes.last_cases {s : FileStore} {place last : List Text} {part : Text}
    (passes : s.Passes place [part] last) :
    last = place ∧ (part = [] ∨ part = ['.']) ∨ last = place.dropLast ∧ part = ['.', '.'] ∨
      last = s.resolve (place ++ [part]) ∧ IsName part := by
  cases passes with
  | stay _ same rest => cases rest; exact Or.inl ⟨rfl, same⟩
  | up _ rest => cases rest; exact Or.inr (Or.inl ⟨rfl, rfl⟩)
  | down _ name rest => cases rest; exact Or.inr (Or.inr ⟨rfl, name⟩)

section Put

variable (s : FileStore) (place : List Text) (content : Bytes)

theorem lookup_replace (files : List (List Text × Bytes)) (other : List Text) :
    (files.map fun f => if f.1 = place then (place, content) else f).lookup other =
      if other = place then (files.lookup place).map fun _ => content else files.lookup other := by
  induction files with
  | nil => simp
  | cons f rest ih =>
    obtain ⟨first, old⟩ := f
    rw [List.map_cons]
    by_cases here : first = place
    · subst here
      by_cases same : other = first
      · simp [same]
      · have different : (other == first) = false := by simpa using same
        rw [if_neg same] at ih
        simp [List.lookup_cons, different, same, ih]
    · rw [if_neg here, List.lookup_cons, List.lookup_cons, List.lookup_cons, ih]
      have skipped : (place == first) = false := by simpa using fun equal => here equal.symm
      by_cases same : other = place
      · subst same
        simp [skipped]
      · rw [if_neg same, if_neg same]

/-- A written file holds what was written, and every other file holds what it held. -/
theorem content?_put (other : List Text) :
    (s.put place content).content? other = if other = place then some content else s.content? other := by
  unfold put
  cases old : s.content? place with
  | some bytes =>
    rw [Option.isSome_some, if_pos rfl]
    show (s.files.map _).lookup other = _
    rw [lookup_replace, show s.files.lookup place = some bytes from old]
    rfl
  | none =>
    rw [Option.isSome_none, if_neg Bool.false_ne_true]
    show (s.files ++ [(place, content)]).lookup other = _
    rw [List.lookup_append]
    by_cases same : other = place
    · subst same
      rw [show s.files.lookup other = none from old, if_pos rfl]
      simp
    · have different : (other == place) = false := by simpa using same
      rw [if_neg same, content?]
      cases s.files.lookup other <;> simp [List.lookup_cons, different]

theorem home_put : (s.put place content).home = s.home := by
  unfold put
  split <;> rfl

theorem links_put : (s.put place content).links = s.links := by
  unfold put
  split <;> rfl

/-- Writing a file takes no directory away. -/
theorem isDirectory_put {other : List Text} (directory : s.isDirectory other = true) :
    (s.put place content).isDirectory other = true := by
  have files : (s.files.any fun f => other.isPrefixOf f.1 && other != f.1) = true →
      ((s.put place content).files.any fun f => other.isPrefixOf f.1 && other != f.1) = true := by
    intro above
    obtain ⟨f, member, prior⟩ := List.any_eq_true.mp above
    unfold put
    split
    · refine List.any_eq_true.mpr ⟨_, List.mem_map_of_mem member, ?_⟩
      split
      · rename_i here
        rwa [here] at prior
      · exact prior
    · exact List.any_eq_true.mpr ⟨f, List.mem_append_left _ member, prior⟩
  have directories : (s.put place content).directories = s.directories := by
    unfold put
    split <;> rfl
  rw [isDirectory, Bool.or_eq_true, Bool.or_eq_true] at directory ⊢
  rw [home_put, directories, links_put]
  exact directory.imp_left (Or.imp_right files)

end Put

/-- The place that a path starts from. -/
def origin (s : FileStore) (raw : Text) : List Text := if raw.head? = some Path.separator then [] else s.home

theorem isDirectory_origin (s : FileStore) (raw : Text) : s.isDirectory (s.origin raw) = true := by
  unfold origin isDirectory
  split <;> simp

/-- The text of a path leads to a place, whatever is there. -/
structure Reaches (s : FileStore) (raw : Text) (place : List Text) : Prop where
  valid : raw.contains '\x00' = false
  nonempty : raw ≠ []
  short : (Utf8.encode raw).length ≤ longestPath
  passes : s.Passes (s.origin raw) (raw.splitOn Path.separator) place

theorem Reaches.locate_eq {s : FileStore} {raw : Text} {place : List Text} (reaches : s.Reaches raw place) :
    s.locate raw = s.follow place [] := by
  rw [← reaches.passes.follow_eq, locate, reaches.valid, if_neg Bool.false_ne_true, if_neg reaches.nonempty,
    if_neg (Nat.not_lt.mpr reaches.short), origin]
  split <;> rfl

theorem reaches_of_target? {s : FileStore} {raw : Text} {place : List Text}
    (found : (s.locate raw).target? = some place) : s.Reaches raw place := by
  unfold locate at found
  split at found
  · cases found
  · rename_i valid
    split at found
    · cases found
    · rename_i nonempty
      split at found
      · cases found
      · rename_i short
        refine ⟨by simpa using valid, nonempty, Nat.not_lt.mp short, passes_of_follow ?_⟩
        unfold origin
        split at found
        · rename_i absolute
          rwa [if_pos absolute]
        · rename_i relative
          rwa [if_neg relative]

theorem Reaches.locate_of_content? {s : FileStore} {raw : Text} {place : List Text} (reaches : s.Reaches raw place)
    {content : Bytes} (held : s.content? place = some content) : s.locate raw = .file place content := by
  rw [reaches.locate_eq, follow, held]

theorem content?_of_locate {s : FileStore} {raw : Text} {place : List Text} {content : Bytes}
    (found : s.locate raw = .file place content) : s.content? place = some content := by
  have reaches : s.Reaches raw place := reaches_of_target? (by rw [found]; rfl)
  rw [reaches.locate_eq, follow] at found
  split at found
  · rename_i bytes held
    cases found
    exact held
  · split at found <;> cases found

theorem Reaches.put {s : FileStore} {raw : Text} {last : List Text} (reaches : s.Reaches raw last)
    (place : List Text) (content : Bytes) : (s.put place content).Reaches raw last where
  valid := reaches.valid
  nonempty := reaches.nonempty
  short := reaches.short
  passes := by
    rw [origin, home_put]
    exact reaches.passes.mono (fun _ => isDirectory_put s place content) (links_put s place content)

/-- The path leads to the file at the place, which holds the content after a write, and every other
file holds what it held before. -/
structure IsWritten (before : FileStore) (path : Path) (place : List Text) (content : Bytes)
    (after : FileStore) : Prop where
  located : after.locate path.text = .file place content
  others : ∀ other, other ≠ place → after.content? other = before.content? other

/-- A write puts the content where the path leads, which a directory on the way or a file at the end
does not change. -/
theorem isWritten_of_write {s after : FileStore} {path : Path} {content : Bytes}
    (written : s.write path content = .ok after) :
    ∃ place, s.Reaches path.text place ∧ s.IsWritten path place content after ∧
      ∀ raw last, s.Reaches raw last → after.Reaches raw last := by
  have target : ∃ place, (s.locate path.text).target? = some place ∧ after = s.put place content := by
    unfold write at written
    split at written <;> cases written
    · rename_i place old found
      exact ⟨place, by rw [found]; rfl, rfl⟩
    · rename_i place found
      exact ⟨place, by rw [found]; rfl, rfl⟩
  obtain ⟨place, found, rfl⟩ := target
  have reaches := reaches_of_target? found
  refine ⟨place, reaches, ⟨?_, fun other different => ?_⟩, fun raw last other => other.put place content⟩
  · refine (reaches.put place content).locate_of_content? ?_
    rw [content?_put, if_pos rfl]
  · rw [content?_put, if_neg different]

end FileStore

namespace Host

variable {h : Host} {s after : FileStore} {path : Path} {content : Bytes}

theorem write_eq_ok (written : h.write s path content = (.ok (), after)) : s.write path content = .ok after := by
  unfold write at written
  split at written
  · split at written
    · rename_i done
      rw [done, (Prod.mk.inj written).2]
    · cases written
  · cases written
  · split at written <;> cases written

/-- A write changes nothing, or puts the content in its place, or as much of it as the system takes. -/
theorem write_leaves (h : Host) (s : FileStore) (path : Path) (content : Bytes) :
    (h.write s path content).2 = s ∨ ∃ left, s.write path left = .ok (h.write s path content).2 ∧
      (left = content ∨ ∃ kept fault, h.writing s path content = .cut kept fault ∧ left = content.take kept) := by
  unfold write
  split
  · split
    · exact Or.inr ⟨content, ‹_›, Or.inl rfl⟩
    · exact Or.inl rfl
  · exact Or.inl rfl
  · rename_i kept fault cut
    split
    · exact Or.inr ⟨content.take kept, ‹_›, Or.inr ⟨kept, fault, cut, rfl⟩⟩
    · exact Or.inl rfl

/-- A write that fails changes nothing, or leaves some first bytes of the content. -/
theorem write_eq_error {fault : FileFault} (failed : h.write s path content = (.error fault, after)) :
    after = s ∨ ∃ kept, h.writing s path content = .cut kept fault ∧
      s.write path (content.take kept) = .ok after := by
  unfold write at failed
  split at failed
  · split at failed
    · cases failed
    · exact Or.inl (Prod.mk.inj failed).2.symm
  · exact Or.inl (Prod.mk.inj failed).2.symm
  · rename_i kept other cut
    split at failed
    · rename_i begun
      obtain ⟨same, rfl⟩ := Prod.mk.inj failed
      cases same
      exact Or.inr ⟨kept, cut, begun⟩
    · exact Or.inl (Prod.mk.inj failed).2.symm

end Host

end SledeCode
