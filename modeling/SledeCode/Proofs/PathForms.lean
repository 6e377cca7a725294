import Mathlib.Data.List.Flatten
import Mathlib.Data.List.TakeWhile
import SledeCode.Proofs.FileWrites
import SledeCode.Proofs.LineShape

namespace SledeCode

theorem intercalate_filter_sublist (separator : Text) (keep : Text → Bool) (parts : List Text) :
    (List.intercalate separator (parts.filter keep)).Sublist (List.intercalate separator parts) := by
  induction parts with
  | nil => exact List.Sublist.refl _
  | cons part rest ih =>
    cases rest with
    | nil =>
      rw [List.filter_cons]
      split
      · exact List.Sublist.refl _
      · exact List.nil_sublist _
    | cons next others =>
      rw [List.intercalate_cons_cons, List.filter_cons]
      split
      · cases kept : (next :: others).filter keep with
        | nil =>
          rw [List.intercalate_singleton, List.append_assoc]
          exact List.sublist_append_left _ _
        | cons first later =>
          rw [List.intercalate_cons_cons, ← kept]
          exact (List.Sublist.refl _).append ih
      · exact ih.trans (List.sublist_append_right _ _)

namespace Path

/-- A part that counts: one that is neither empty nor a single point. -/
def isPart (part : Text) : Bool := decide (part ≠ [] ∧ part ≠ ['.'])

theorem isPart_eq_false_iff {part : Text} : isPart part = false ↔ part = [] ∨ part = ['.'] := by
  simp only [isPart, decide_eq_false_iff_not, ne_eq, ← not_or, Decidable.not_not]

theorem isPart_eq_true_iff {part : Text} : isPart part = true ↔ ¬ (part = [] ∨ part = ['.']) := by
  rw [← isPart_eq_false_iff, Bool.not_eq_false]

/-- What reading gives: slashes at the start, and only parts that count. -/
structure IsNormal (p : Path) : Prop where
  root : p.root = [] ∨ p.root = [separator] ∨ p.root = [separator, separator]
  parts : ∀ part ∈ p.parts, isPart part = true ∧ separator ∉ part

theorem parts_read (raw : Text) : (read raw).parts = (raw.splitOn separator).filter isPart := rfl

theorem isNormal_read (raw : Text) : (read raw).IsNormal where
  root := by
    show rootOf raw = [] ∨ rootOf raw = [separator] ∨ rootOf raw = [separator, separator]
    unfold rootOf
    split
    · exact Or.inl rfl
    · exact Or.inr (Or.inr rfl)
    · exact Or.inr (Or.inl rfl)
  parts part member := by
    obtain ⟨listed, counts⟩ := List.mem_filter.mp member
    exact ⟨counts, Text.not_mem_of_mem_splitOn listed⟩

/-- Behind the slashes at the start stand exactly the parts of the path. -/
theorem splitOn_root {root : Text}
    (slashes : root = [] ∨ root = [separator] ∨ root = [separator, separator]) (t : Text) :
    ∃ dropped : List Text, (∀ part ∈ dropped, part = []) ∧
      (root ++ t).splitOn separator = dropped ++ t.splitOn separator := by
  have slash (u : Text) : (separator :: u).splitOn separator = [] :: u.splitOn separator := by
    rw [List.splitOn_cons_eq_if_modifyHead, if_pos (beq_self_eq_true _)]
  rcases slashes with rfl | rfl | rfl
  · exact ⟨[], by simp, rfl⟩
  · exact ⟨[[]], by simp, slash t⟩
  · exact ⟨[[], []], by simp, by rw [List.cons_append, slash, List.cons_append, slash]; rfl⟩

theorem text_ne_nil (p : Path) : p.text ≠ [] := by
  unfold text
  split
  · exact List.cons_ne_nil _ _
  · rename_i shown
    exact shown

theorem text_of_shown {p : Path} (shown : p.root ++ List.intercalate [separator] p.parts ≠ []) :
    p.text = p.root ++ List.intercalate [separator] p.parts := by
  unfold text
  split
  · rename_i empty
    exact absurd empty shown
  · rfl

theorem text_of_empty {p : Path} (root : p.root = []) (parts : p.parts = []) : p.text = ['.'] := by
  rw [text, root, parts]
  rfl

/-- The joined parts of a path start with a character that is no slash. -/
theorem IsNormal.intercalate_eq_cons {p : Path} (normal : p.IsNormal) (nonempty : p.parts ≠ []) :
    ∃ c rest, List.intercalate [separator] p.parts = c :: rest ∧ c ≠ separator := by
  obtain ⟨first, others, shape⟩ := List.exists_cons_of_ne_nil nonempty
  obtain ⟨counts, whole⟩ := normal.parts first (shape ▸ List.mem_cons_self)
  obtain ⟨c, rest, rfl⟩ := List.exists_cons_of_ne_nil fun empty : first = [] =>
    isPart_eq_true_iff.mp counts (Or.inl empty)
  have other : c ≠ separator := fun slash => whole (slash ▸ List.mem_cons_self)
  rw [shape]
  cases others with
  | nil => exact ⟨c, rest, List.intercalate_singleton, other⟩
  | cons next later => exact ⟨c, _, List.intercalate_cons_cons, other⟩

theorem IsNormal.intercalate_ne_nil {p : Path} (normal : p.IsNormal) (nonempty : p.parts ≠ []) :
    List.intercalate [separator] p.parts ≠ [] := by
  obtain ⟨c, rest, joined, -⟩ := normal.intercalate_eq_cons nonempty
  rw [joined]
  exact List.cons_ne_nil c rest

theorem IsNormal.text_of_parts {p : Path} (normal : p.IsNormal) (nonempty : p.parts ≠ []) :
    p.text = p.root ++ List.intercalate [separator] p.parts :=
  text_of_shown (List.append_ne_nil_of_right_ne_nil _ (normal.intercalate_ne_nil nonempty))

/-- The text of a path falls apart into its parts, behind some that do not count. -/
theorem IsNormal.splitOn_text {p : Path} (normal : p.IsNormal) :
    ∃ dropped : List Text, (∀ part ∈ dropped, part = [] ∨ part = ['.']) ∧
      p.text.splitOn separator = dropped ++ p.parts := by
  by_cases empty : p.parts = []
  · by_cases relative : p.root = []
    · rw [text_of_empty relative empty, empty]
      exact ⟨[['.']], by simp, rfl⟩
    · have shown : p.text = p.root ++ [] := by
        have shown := text_of_shown (p := p) (by rw [empty]; simpa using relative)
        rwa [empty] at shown
      obtain ⟨dropped, slashes, split⟩ := splitOn_root normal.root []
      refine ⟨dropped ++ [[]], fun part member => ?_, by rw [shown, split, empty, List.append_nil]; rfl⟩
      rcases List.mem_append.mp member with early | last
      · exact Or.inl (slashes part early)
      · exact Or.inl (List.mem_singleton.mp last)
  · obtain ⟨dropped, slashes, split⟩ := splitOn_root normal.root (List.intercalate [separator] p.parts)
    refine ⟨dropped, fun part member => Or.inl (slashes part member), ?_⟩
    rw [normal.text_of_parts empty, split,
      List.splitOn_intercalate _ (fun part member => (normal.parts part member).2) empty]

/-- A path is absolute exactly if its text starts with a slash. -/
theorem IsNormal.head?_text {p : Path} (normal : p.IsNormal) :
    p.text.head? = some separator ↔ p.root ≠ [] := by
  constructor
  · intro slash relative
    by_cases empty : p.parts = []
    · rw [text_of_empty relative empty] at slash
      cases slash
    · obtain ⟨c, rest, joined, other⟩ := normal.intercalate_eq_cons empty
      rw [normal.text_of_parts empty, relative, joined] at slash
      exact other (Option.some.inj slash)
  · intro absolute
    rw [text_of_shown (List.append_ne_nil_of_left_ne_nil absolute _)]
    rcases normal.root with none | one | two
    · exact absurd none absolute
    · rw [one]; rfl
    · rw [two]; rfl

theorem rootOf_eq_nil_iff {raw : Text} : rootOf raw = [] ↔ raw.head? ≠ some separator := by
  cases raw with
  | nil => simp [rootOf]
  | cons c rest =>
    rw [List.head?_cons, ne_eq, Option.some.injEq]
    by_cases slash : c = separator
    · subst slash
      have counted : rootOf (separator :: rest) ≠ [] := by
        unfold rootOf
        rw [List.takeWhile_cons, if_pos (beq_self_eq_true _), List.length_cons]
        split
        · rename_i impossible
          cases impossible
        · exact List.cons_ne_nil _ _
        · exact List.cons_ne_nil _ _
      simp [counted]
    · have none : rootOf (c :: rest) = [] := by
        rw [rootOf, List.takeWhile_cons, if_neg (by simpa using slash)]
        rfl
      simp [none, slash]

theorem rootOf_sublist (raw : Text) : (rootOf raw).Sublist (raw.takeWhile (· == separator)) := by
  have slashes : raw.takeWhile (· == separator) =
      List.replicate (raw.takeWhile (· == separator)).length separator :=
    List.eq_replicate_of_mem fun c member => by simpa using List.mem_takeWhile_imp member
  unfold rootOf
  split
  · exact List.nil_sublist _
  · rename_i two
    rw [slashes, two]
    exact List.Sublist.refl _
  · rename_i counted _
    rw [slashes]
    exact (List.replicate_sublist_replicate (m := 1) separator).mpr (Nat.pos_of_ne_zero counted)

/-- The slashes at the start hold no part. -/
theorem parts_read_dropWhile (raw : Text) :
    (read (raw.dropWhile (· == separator))).parts = (read raw).parts := by
  induction raw with
  | nil => rfl
  | cons c rest ih =>
    rw [List.dropWhile_cons]
    split
    · rename_i slash
      rw [ih, parts_read, parts_read, List.splitOn_cons_eq_if_modifyHead, if_pos slash, List.filter_cons]
      rfl
    · rfl

/-- The first character of a path without parts that does not start with a slash is a point. -/
theorem mem_of_parts_read_nil {raw : Text} (nonempty : raw ≠ []) (relative : rootOf raw = [])
    (empty : (read raw).parts = []) : '.' ∈ raw := by
  obtain ⟨c, rest, rfl⟩ := List.exists_cons_of_ne_nil nonempty
  have first : c ≠ separator := by simpa using rootOf_eq_nil_iff.mp relative
  rw [parts_read, List.splitOn_cons_eq_if_modifyHead, if_neg (by simpa using first),
    List.filter_eq_nil_iff] at empty
  cases parts : rest.splitOn separator with
  | nil => exact absurd parts (List.splitOn_ne_nil _ _)
  | cons part others =>
    have dropped := empty (c :: part) (by rw [parts]; exact List.mem_cons_self)
    rcases isPart_eq_false_iff.mp (Bool.not_eq_true _ ▸ dropped) with none | point
    · cases none
    · cases point
      exact List.mem_cons_self

/-- Reading a path only leaves characters out. -/
theorem text_read_sublist {raw : Text} (nonempty : raw ≠ []) : (read raw).text.Sublist raw := by
  by_cases shown : (read raw).root ++ List.intercalate [separator] (read raw).parts = []
  -- Only points are left out of such a path, and its text is one of them.
  · obtain ⟨relative, inside⟩ := List.append_eq_nil_iff.mp shown
    have empty : (read raw).parts = [] :=
      Decidable.by_contra fun some => (isNormal_read raw).intercalate_ne_nil some inside
    rw [text_of_empty relative empty, List.singleton_sublist]
    exact mem_of_parts_read_nil nonempty relative empty
  · have behind := intercalate_filter_sublist [separator] isPart
      ((raw.dropWhile (· == separator)).splitOn separator)
    rw [List.intercalate_splitOn, ← parts_read, parts_read_dropWhile] at behind
    have whole := (rootOf_sublist raw).append behind
    rw [List.takeWhile_append_dropWhile] at whole
    rwa [text_of_shown shown]

/-- The text of a path in normal form is read back to the same parts. -/
theorem IsNormal.parts_read_text {p : Path} (normal : p.IsNormal) : (read p.text).parts = p.parts := by
  obtain ⟨dropped, uncounted, split⟩ := normal.splitOn_text
  have none : dropped.filter isPart = [] :=
    List.filter_eq_nil_iff.mpr fun part member => by simp [isPart_eq_false_iff.mpr (uncounted part member)]
  have all : p.parts.filter isPart = p.parts :=
    List.filter_eq_self.mpr fun part member => (normal.parts part member).1
  rw [parts_read, split, List.filter_append, none, all, List.nil_append]

section Suffix

/-- The ending of image files. -/
abbrev imageSuffix : Text := ".s8".toList

theorem stem_append {base : Text} (nonempty : base ≠ []) : stem (base ++ imageSuffix) = base := by
  have ending : (base ++ imageSuffix).reverse.takeWhile (· != '.') = ['8', 's'] := by
    rw [List.reverse_append]
    rfl
  have positive := List.length_pos_iff.mpr nonempty
  have length : (base ++ imageSuffix).length = base.length + 3 := List.length_append
  rw [stem, ending, length]
  show (if 2 ≠ 0 ∧ 2 < base.length + 3 ∧ 0 < base.length then (base ++ imageSuffix).take base.length
    else base ++ imageSuffix) = base
  rw [if_pos ⟨by decide, by omega, positive⟩, List.take_left]

/-- Putting the ending of images in place of another one changes a name unless it is there already. -/
theorem stem_append_eq_iff {name : Text} :
    stem name ++ imageSuffix = name ↔ ∃ base : Text, base ≠ [] ∧ name = base ++ imageSuffix := by
  constructor
  · intro same
    refine ⟨stem name, fun empty => ?_, same.symm⟩
    rw [empty, List.nil_append] at same
    rw [← same] at empty
    revert empty
    decide
  · rintro ⟨base, nonempty, rfl⟩
    rw [stem_append nonempty]

theorem stem_subset (name : Text) : stem name ⊆ name := by
  unfold stem
  dsimp only
  split
  · exact List.take_subset _ _
  · exact List.Subset.refl _

theorem three_le_length_suffixed (name : Text) : 3 ≤ (stem name ++ imageSuffix).length := by
  rw [List.length_append]
  exact Nat.le_add_left _ _

theorem isNormal_withSuffix {p : Path} (normal : p.IsNormal) : (p.withSuffix imageSuffix).IsNormal where
  root := normal.root
  parts part member := by
    rcases List.mem_append.mp member with early | last
    · exact normal.parts part (List.dropLast_subset _ early)
    · rw [List.mem_singleton] at last
      subst last
      have long := three_le_length_suffixed p.name
      refine ⟨isPart_eq_true_iff.mpr fun short => ?_, fun inside => ?_⟩
      · rcases short with empty | point
        · exact absurd (empty ▸ long) (by decide)
        · exact absurd (point ▸ long) (by decide)
      · rcases List.mem_append.mp inside with inStem | inSuffix
        · have inName := stem_subset p.name inStem
          rw [name] at inName
          cases final : p.parts.getLast? with
          | none => rw [final] at inName; cases inName
          | some part =>
            rw [final] at inName
            exact (normal.parts part (List.mem_of_getLast? final)).2 inName
        · exact absurd inSuffix (by decide)

end Suffix

end Path

namespace FileStore

theorem origin_text (s : FileStore) {p : Path} (normal : p.IsNormal) :
    s.origin p.text = if p.root = [] then s.home else [] := by
  rw [origin]
  by_cases relative : p.root = []
  · rw [if_pos relative, if_neg (fun slash => normal.head?_text.mp slash relative)]
  · rw [if_neg relative, if_pos (normal.head?_text.mpr relative)]

theorem origin_read (s : FileStore) (raw : Text) : s.origin (Path.read raw).text = s.origin raw := by
  rw [s.origin_text (Path.isNormal_read raw), origin]
  show (if Path.rootOf raw = [] then s.home else []) = _
  by_cases slash : raw.head? = some Path.separator
  · rw [if_pos slash, if_neg fun relative => Path.rootOf_eq_nil_iff.mp relative slash]
  · rw [if_neg slash, if_pos (Path.rootOf_eq_nil_iff.mpr slash)]

theorem Passes.counted {s : FileStore} {place last parts : List Text} (passes : s.Passes place parts last) :
    s.Passes place (parts.filter Path.isPart) last := by
  induction passes with
  | done place => exact .done place
  | stay _ same _ ih =>
    rwa [List.filter_cons, Path.isPart_eq_false_iff.mpr same, if_neg Bool.false_ne_true]
  | up directory _ ih => exact .up directory ih
  | down directory name _ ih =>
    rw [List.filter_cons, if_pos (Path.isPart_eq_true_iff.mpr name.named)]
    exact .down directory name ih

theorem Passes.prepend {s : FileStore} {place last parts dropped : List Text}
    (passes : s.Passes place parts last) (directory : s.isDirectory place = true)
    (uncounted : ∀ part ∈ dropped, part = [] ∨ part = ['.']) : s.Passes place (dropped ++ parts) last := by
  induction dropped with
  | nil => exact passes
  | cons part rest ih =>
    exact .stay directory (uncounted part List.mem_cons_self)
      (ih fun other member => uncounted other (List.mem_cons_of_mem _ member))

theorem Reaches.passes_parts {s : FileStore} {p : Path} {place : List Text} (normal : p.IsNormal)
    (reaches : s.Reaches p.text place) : s.Passes (s.origin p.text) p.parts place := by
  have passes := reaches.passes.counted
  rwa [← Path.parts_read, normal.parts_read_text] at passes

/-- A path leads to a place also in its normal form. -/
theorem Reaches.normalForm {s : FileStore} {raw : Text} {place : List Text} (reaches : s.Reaches raw place) :
    s.Reaches (Path.read raw).text place := by
  have shorter := Path.text_read_sublist reaches.nonempty
  have normal := Path.isNormal_read raw
  refine ⟨?_, Path.text_ne_nil _, ?_, ?_⟩
  · have valid : '\x00' ∉ raw := by simpa using reaches.valid
    simpa using fun inside => valid (shorter.subset inside)
  · exact (shorter.flatMap Utf8.encodeChar).length_le.trans reaches.short
  · obtain ⟨dropped, uncounted, split⟩ := normal.splitOn_text
    rw [split, origin_read]
    exact reaches.passes.counted.prepend (s.isDirectory_origin raw) uncounted

/-- Some link is another name of the place. -/
def IsLinked (s : FileStore) (place : List Text) : Prop := ∃ other, (other, place) ∈ s.links

/-- A place is reached under its own name, or a link leads there. -/
theorem eq_or_isLinked_of_resolve {s : FileStore} {place last : List Text} (reached : last = s.resolve place) :
    last = place ∨ s.IsLinked last := by
  rw [resolve] at reached
  cases found : s.links.lookup place with
  | none =>
    rw [found] at reached
    exact Or.inl reached
  | some target =>
    rw [found] at reached
    obtain ⟨front, back, shape, -⟩ := List.lookup_eq_some_iff.mp found
    exact Or.inr ⟨place, by rw [shape, reached]; simp⟩

/-- A path leads to the same place with the ending of images only if its last part has that ending, or
the place has a link. -/
theorem Reaches.name_of_withSuffix {s : FileStore} {p : Path} {place : List Text} (normal : p.IsNormal)
    (reaches : s.Reaches p.text place) (suffixed : s.Reaches (p.withSuffix Path.imageSuffix).text place) :
    (∃ base : Text, base ≠ [] ∧ p.name = base ++ Path.imageSuffix) ∨ s.IsLinked place := by
  have direct := reaches.passes_parts normal
  have replaced := suffixed.passes_parts (Path.isNormal_withSuffix normal)
  have origins : s.origin (p.withSuffix Path.imageSuffix).text = s.origin p.text := by
    rw [s.origin_text normal, s.origin_text (Path.isNormal_withSuffix normal)]
    rfl
  rw [origins] at replaced
  obtain ⟨before, reached, final⟩ := replaced.split_last
  have long := Path.three_le_length_suffixed p.name
  -- The new last part is too long for a point or two, so it leads one directory down.
  have down : place = s.resolve (before ++ [Path.stem p.name ++ Path.imageSuffix]) := by
    rcases final.last_cases with ⟨-, empty | point⟩ | ⟨-, up⟩ | ⟨down, -⟩
    · exact absurd (empty ▸ long) (by decide)
    · exact absurd (point ▸ long) (by decide)
    · exact absurd (up ▸ long) (by decide)
    · exact down
  rcases eq_or_isLinked_of_resolve down with down | linked
  swap
  · exact Or.inr linked
  rcases List.eq_nil_or_concat p.parts with empty | ⟨init, last, shape⟩
  · rw [empty] at direct reached
    cases direct
    cases reached
    have lengths := congrArg List.length down
    rw [List.length_append] at lengths
    simp at lengths
  · have name : p.name = last := by rw [Path.name, shape]; simp
    rw [shape, List.concat_eq_append] at direct
    rw [shape, List.concat_eq_append, List.dropLast_concat] at reached
    obtain ⟨again, reachedAgain, direct⟩ := direct.split_last
    have same := reachedAgain.unique reached
    subst same
    rcases direct.last_cases with ⟨-, stays⟩ | ⟨up, -⟩ | ⟨further, -⟩
    · have counts := (normal.parts last (by rw [shape]; simp)).1
      exact absurd stays (Path.isPart_eq_true_iff.mp counts)
    -- The parent of a directory is not inside it.
    · have lengths := congrArg List.length (up.symm.trans down)
      rw [List.length_append, List.length_dropLast, List.length_singleton] at lengths
      omega
    · refine (eq_or_isLinked_of_resolve further).imp_left fun further => ?_
      have parts := List.append_cancel_left (further.symm.trans down)
      rw [name, ← Path.stem_append_eq_iff]
      rw [name] at parts
      exact (List.cons.inj parts).1.symm

end FileStore

end SledeCode
