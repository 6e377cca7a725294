import SledeCode.Proofs.CommandFiles
import SledeCode.Proofs.PathForms

namespace SledeCode

namespace AssembleCommand

/-- Without a listing, the image is the only file that is written. -/
theorem Course.image_of_unlisted {codecs : Codecs} {h : Host} {store after : FileStore} {e : Environment}
    {r : Request} {result : Except Failure Unit} (course : Course codecs h store e r result after)
    (unlisted : r.listing = none) :
    after = store ∨ ∃ p, Builds codecs h store e r p ∧ after = (h.write store (imagePath r) p.image).2 := by
  cases course with
  | unsettled => exact Or.inl rfl
  | unassembled => exact Or.inl rfl
  | silenced _ _ stage =>
    cases stage with
    | start => exact Or.inl rfl
    | image builds written => exact Or.inr ⟨_, builds, by rw [written]⟩
    | listing _ _ listing => cases unlisted.symm.trans listing
  | unwritten builds refused => exact Or.inr ⟨_, builds, by rw [refused]⟩
  | imageOnly builds written => exact Or.inr ⟨_, builds, by rw [written]⟩
  | unlisted _ _ listing | listed _ _ listing => cases unlisted.symm.trans listing

/-- What is written leads elsewhere than a file, or takes its place. -/
theorem locate_of_write {store after : FileStore} {raw : Text} {path : Path} {place : List Text}
    {content left : Bytes} (located : store.locate raw = .file place content)
    (written : store.write path left = .ok after) :
    after.locate raw = .file place content ∨ store.Reaches path.text place ∧ after.locate raw = .file place left := by
  have reaches : store.Reaches raw place := FileStore.reaches_of_target? (by rw [located]; rfl)
  obtain ⟨target, beside, isWritten, kept⟩ := FileStore.isWritten_of_write written
  have still := kept raw place reaches
  by_cases same : place = target
  · subst same
    exact Or.inr ⟨beside, still.locate_of_content? (FileStore.content?_of_locate isWritten.located)⟩
  · refine Or.inl (still.locate_of_content? ?_)
    rw [isWritten.others place same]
    exact FileStore.content?_of_locate located

/-- A request that names no output file keeps its input, unless the file beside it that the image goes
to is the input itself, by the ending of its name or by a link. Then the input holds the image, or as much
of it as the system takes, if the request comes so far. If it succeeds, the image lies beside the input and
no other file changes. -/
theorem default_output_keeps_input (codecs : Codecs) (h : Host) (store : FileStore) (e : Environment)
    {r : Request} (normal : r.input.IsNormal) (beside : r.output = none) (unlisted : r.listing = none) :
    (∀ place content, store.locate r.input.text = .file place content →
      (execute codecs h store e r).session.store.locate r.input.text = .file place content ∨
        store.Reaches (r.input.withSuffix Path.imageSuffix).text place ∧
        ((∃ base : Text, base ≠ [] ∧ r.input.name = base ++ Path.imageSuffix) ∨ store.IsLinked place) ∧
        ∃ p left, Builds codecs h store e r p ∧
          (execute codecs h store e r).session.store.locate r.input.text = .file place left ∧
          (left = p.image ∨ ∃ kept fault,
            h.writing store (r.input.withSuffix Path.imageSuffix) p.image = .cut kept fault ∧
              left = p.image.take kept)) ∧
    ((execute codecs h store e r).exit = 0 → ∃ p target, Builds codecs h store e r p ∧
      store.IsWritten (r.input.withSuffix Path.imageSuffix) target p.image
        (execute codecs h store e r).session.store) := by
  have output : imagePath r = r.input.withSuffix Path.imageSuffix := by rw [imagePath, beside]; rfl
  obtain ⟨result, course, zero⟩ := execute_cases codecs h store e r
  generalize (execute codecs h store e r).session.store = after at course ⊢
  constructor
  · intro place content located
    rcases course.image_of_unlisted unlisted with rfl | ⟨p, builds, rfl⟩
    · exact Or.inl located
    rw [output]
    rcases h.write_leaves store (r.input.withSuffix Path.imageSuffix) p.image with same | ⟨left, written, whole⟩
    · rw [same]
      exact Or.inl located
    · refine (locate_of_write located written).imp_right fun ⟨leads, replaced⟩ => ?_
      have reaches : store.Reaches r.input.text place := FileStore.reaches_of_target? (by rw [located]; rfl)
      exact ⟨leads, reaches.name_of_withSuffix normal leads, p, left, builds, replaced, whole⟩
  · intro exit
    cases zero.mp exit
    cases course with
    | imageOnly builds written =>
      rw [output] at written
      obtain ⟨target, -, image⟩ := isWritten_of_write written
      exact ⟨_, target, builds, image⟩
    | listed _ _ listing => cases unlisted.symm.trans listing

/-- A name with two points, in a directory that the path names in a roundabout way. -/
theorem default_output_keeps_input_two_points : ∃ (store : FileStore) (r : Request),
    store = .ofRelative ["arbeid".toList]
      [("mappe/prog.v2.slede".toList, Utf8.encode "STOPP\n".toList), ("mappe/prog.v2.s8".toList, [1, 2])] [] ∧
    r = ⟨Path.read "mappe//./prog.v2.slede".toList, none, none, none, false, true⟩ ∧
    (execute .standard .willing store ⟨none, none, none⟩ r).exit = 0 ∧
    (execute .standard .willing store ⟨none, none, none⟩ r).session.store.locate "mappe/prog.v2.slede".toList =
      .file ["arbeid".toList, "mappe".toList, "prog.v2.slede".toList] (Utf8.encode "STOPP\n".toList) ∧
    ∃ (p : Program) (target : List Text), store.IsWritten (Path.read "mappe/prog.v2.s8".toList) target
      p.image (execute .standard .willing store ⟨none, none, none⟩ r).session.store := by
  obtain ⟨store, r, files, request, exit⟩ : ∃ (store : FileStore) (r : Request),
      store = .ofRelative ["arbeid".toList]
        [("mappe/prog.v2.slede".toList, Utf8.encode "STOPP\n".toList), ("mappe/prog.v2.s8".toList, [1, 2])] [] ∧
      r = ⟨Path.read "mappe//./prog.v2.slede".toList, none, none, none, false, true⟩ ∧
      (execute .standard .willing store ⟨none, none, none⟩ r).exit = 0 := ⟨_, _, rfl, rfl, by decide +kernel⟩
  have input : r.input = Path.read "mappe//./prog.v2.slede".toList := by rw [request]
  have text : r.input.text = "mappe/prog.v2.slede".toList := by rw [input]; decide
  obtain ⟨kept, written⟩ := default_output_keeps_input .standard .willing store ⟨none, none, none⟩
    (input ▸ Path.isNormal_read _) (by rw [request]) (by rw [request])
  refine ⟨store, r, files, request, exit, ?_, ?_⟩
  · have located : store.locate r.input.text =
        .file ["arbeid".toList, "mappe".toList, "prog.v2.slede".toList] (Utf8.encode "STOPP\n".toList) := by
      rw [text, files]
      rfl
    rw [← text]
    rcases kept _ _ located with same | ⟨-, ⟨base, -, named⟩ | ⟨other, linked⟩, -⟩
    · exact same
    · have last := congrArg List.getLast? named
      rw [List.getLast?_append, input] at last
      cases last
    · rw [files] at linked
      cases linked
  · obtain ⟨p, target, -, isWritten⟩ := written exit
    rw [input] at isWritten
    exact ⟨p, target, isWritten⟩

/-- A source that has the ending of images already is replaced by its image. -/
theorem image_name_overwrites_input : ∃ (store : FileStore) (o : Outcome),
    store = .ofRelative ["arbeid".toList] [("prog.s8".toList, Utf8.encode "STOPP\n".toList)] [] ∧
    run .standard .willing store ⟨none, none, none⟩ ["prog.s8".toList] = .outcome o ∧ o.exit = 0 ∧
    store.content? ["arbeid".toList, "prog.s8".toList] = some (Utf8.encode "STOPP\n".toList) ∧
    o.session.store.content? ["arbeid".toList, "prog.s8".toList] =
      some (Utf8.encode ".SLEDE8\x00\x00".toList) := by
  refine ⟨_, _, rfl, rfl, ?_⟩
  decide +kernel

end AssembleCommand

end SledeCode
