import SledeCode.Proofs.CommandSteps
import SledeCode.Proofs.FileWrites
import SledeCode.Tool.Assemble

namespace SledeCode

theorem FileStore.locate_of_read {s : FileStore} {path : Path} {content : Bytes}
    (found : s.read path = .ok content) : ∃ place, s.locate path.text = .file place content := by
  unfold FileStore.read at found
  split at found
  · rename_i place held located
    cases found
    exact ⟨place, located⟩
  · cases found

theorem Host.locate_of_read {h : Host} {s : FileStore} {path : Path} {content : Bytes}
    (found : h.read s path = .ok content) : ∃ place, s.locate path.text = .file place content := by
  unfold Host.read at found
  split at found
  · cases found
  · exact FileStore.locate_of_read found

namespace AssembleCommand

/-- The program is what the settings of a request make of the source in its input file. -/
def Builds (codecs : Codecs) (h : Host) (store : FileStore) (e : Environment) (r : Request) (p : Program) : Prop :=
  ∃ (s : Settings codecs) (place : List Text) (content : Bytes) (source : Text), settings codecs r e = .ok s ∧
    store.locate r.input.text = .file place content ∧ h.read store r.input = .ok content ∧
    Utf8.readFile content = .ok source ∧ (Assembly.assemble s source r.input.text).outcome = .ok p

/-- How far a request has come when a line about it is shown. -/
inductive Stage (codecs : Codecs) (h : Host) (store : FileStore) (e : Environment) (r : Request) : FileStore → Prop
  | start : Stage codecs h store e r store
  | image {p : Program} {written : FileStore} : Builds codecs h store e r p →
      h.write store (imagePath r) p.image = (.ok (), written) → Stage codecs h store e r written
  | listing {p : Program} {written after : FileStore} {path : Path} : Builds codecs h store e r p →
      h.write store (imagePath r) p.image = (.ok (), written) → r.listing = some path →
      h.write written path (Utf8.encode p.listing) = (.ok (), after) → Stage codecs h store e r after

/-- The ways in which a request can end, by the first step that fails. A listing is written after the
image, and the lines that are asked for are shown between the steps. -/
inductive Course (codecs : Codecs) (h : Host) (store : FileStore) (e : Environment) (r : Request) :
    Except Failure Unit → FileStore → Prop
  | unsettled {failure : Failure} : settings codecs r e = .error failure →
      Course codecs h store e r (.error failure) store
  | unassembled {s : Settings codecs} {failure : Failure} : settings codecs r e = .ok s →
      (SourceFile.assemble h s store r.input).outcome = .error failure →
      Course codecs h store e r (.error failure) store
  | silenced {message : Text} {after : FileStore} : r.verbose = true → h.Mutes .output message →
      Stage codecs h store e r after → Course codecs h store e r (.error (.stream message)) after
  | unwritten {p : Program} {fault : FileFault} {after : FileStore} : Builds codecs h store e r p →
      h.write store (imagePath r) p.image = (.error fault, after) →
      Course codecs h store e r (.error (.file fault)) after
  | unlisted {p : Program} {written after : FileStore} {path : Path} {fault : FileFault} :
      Builds codecs h store e r p → h.write store (imagePath r) p.image = (.ok (), written) →
      r.listing = some path → h.write written path (Utf8.encode p.listing) = (.error fault, after) →
      Course codecs h store e r (.error (.file fault)) after
  | imageOnly {p : Program} {written : FileStore} : Builds codecs h store e r p →
      h.write store (imagePath r) p.image = (.ok (), written) → r.listing = none →
      Course codecs h store e r (.ok ()) written
  | listed {p : Program} {written after : FileStore} {path : Path} : Builds codecs h store e r p →
      h.write store (imagePath r) p.image = (.ok (), written) → r.listing = some path →
      h.write written path (Utf8.encode p.listing) = (.ok (), after) →
      Course codecs h store e r (.ok ()) after

variable {codecs : Codecs} {h : Host} {store after : FileStore} {e : Environment} {r : Request}

theorem builds_of_assemble {s : Settings codecs} {p : Program} (settled : settings codecs r e = .ok s)
    (built : (SourceFile.assemble h s store r.input).outcome = .ok p) : Builds codecs h store e r p := by
  obtain ⟨source, read, assembled⟩ := Run.bind_eq_ok_iff.mp built
  obtain ⟨content, found, read⟩ := Run.bind_eq_ok_iff.mp read
  obtain ⟨text, decoded, read⟩ := Run.bind_eq_ok_iff.mp read
  have found := Run.ofOutcome_mapError_eq_ok_iff.mp found
  obtain ⟨place, located⟩ := Host.locate_of_read found
  cases read
  exact ⟨s, place, content, _, settled, located, found, Run.ofOutcome_mapError_eq_ok_iff.mp decoded, assembled⟩

theorem writeImage_eq (h : Host) (store : FileStore) (p : Program) (path : Path) (given : Text) :
    (SourceFile.writeImage h store p path given).1.outcome = (h.write store path p.image).1.mapError .file ∧
      (SourceFile.writeImage h store p path given).2 = (h.write store path p.image).2 := by
  refine ⟨?_, rfl⟩
  simp only [SourceFile.writeImage, Run.outcome_bind]
  cases (h.write store path p.image).1 <;> rfl

theorem ends_say {s : Session} {post : Except Failure Unit → Session → Prop} {t : Text}
    (shown : ∀ output, post (.ok ()) { s with output := output })
    (muted : ∀ message output, r.verbose = true → h.Mutes .output message →
      post (.error (.stream message)) { s with output := output }) : (say h r t).Ends s post := by
  unfold say
  split
  · rename_i verbose
    exact Command.ends_echo (fun _ => shown _) (fun message _ => muted message _ verbose)
  · exact Command.ends_pure (shown s.output)

open Command in
theorem steps_ends (codecs : Codecs) (h : Host) (store : FileStore) (e : Environment) (r : Request) :
    (steps codecs h r e).Ends ⟨store, [], []⟩ fun result t => Course codecs h store e r result t.store := by
  have silenced {after : FileStore} (stage : Stage codecs h store e r after) (message : Text) (_ : Text)
      (verbose : r.verbose = true) (mutes : h.Mutes .output message) :
      Course codecs h store e r (.error (.stream message)) after := .silenced verbose mutes stage
  refine ends_bind (ends_perform fun _ => ?_)
  cases settled : settings codecs r e with
  | error failure => exact .unsettled settled
  | ok s =>
    refine ends_bind (ends_say (fun _ => ?_) (silenced .start))
    refine ends_get_bind (ends_bind (ends_perform fun _ => ?_))
    dsimp only
    cases assembled : (SourceFile.assemble h s store r.input).outcome with
    | error failure => exact .unassembled settled assembled
    | ok p =>
      have builds := builds_of_assemble settled assembled
      refine ends_bind (ends_change fun _ => ?_)
      dsimp only
      obtain ⟨answer, left⟩ := writeImage_eq h store p (imagePath r) (imagePath r).text
      rw [answer, left]
      rcases written : h.write store (imagePath r) p.image with ⟨fault | ⟨⟩, middle⟩
      · exact .unwritten builds written
      · have image : Stage codecs h store e r middle := .image builds written
        refine ends_bind (ends_say (fun _ => ?_) (silenced image))
        cases listing : r.listing with
        | none =>
          refine ends_bind (ends_say (fun _ => ?_) (silenced image))
          exact ends_say (fun _ => .imageOnly builds written listing) (silenced image)
        | some path =>
          refine ends_bind (ends_writeFile ?_)
          dsimp only
          rcases listed : h.write middle path (Utf8.encode p.listing) with ⟨fault | ⟨⟩, final⟩
          · exact .unlisted builds written listing listed
          · have last : Stage codecs h store e r final := .listing builds written listing listed
            refine ends_bind (ends_say (fun _ => ?_) (silenced last))
            refine ends_bind (ends_say (fun _ => ?_) (silenced last))
            exact ends_say (fun _ => .listed builds written listing listed) (silenced last)

/-- A request takes one of its courses, and its exit code is zero exactly if nothing fails on it. -/
theorem execute_cases (codecs : Codecs) (h : Host) (store : FileStore) (e : Environment) (r : Request) :
    ∃ result, Course codecs h store e r result (execute codecs h store e r).session.store ∧
      ((execute codecs h store e r).exit = 0 ↔ result = .ok ()) := by
  obtain ⟨result, t, course, left, -, zero⟩ :=
    Command.finish_of_ends (steps_ends codecs h store e r) h r.verbose "Assembly".toList
  exact ⟨result, left.symm ▸ course, zero⟩

/-- The files that a request leaves which fails after it has begun to write, by what stopped it. -/
inductive Interrupted (h : Host) (store : FileStore) (r : Request) (p : Program) : FileStore → Prop
  /-- The system took only the first bytes of the image. -/
  | imageCut {kept : Nat} {fault : FileFault} {place : List Text} {after : FileStore} :
      h.writing store (imagePath r) p.image = .cut kept fault →
      store.IsWritten (imagePath r) place (p.image.take kept) after → Interrupted h store r p after
  /-- The image is written, and a line that was asked for could not be shown. -/
  | imageSilenced {message : Text} {place : List Text} {after : FileStore} :
      store.IsWritten (imagePath r) place p.image after → r.verbose = true → h.Mutes .output message →
      Interrupted h store r p after
  /-- The image is written, and the file of the listing could not be opened. -/
  | unlisted {path : Path} {fault : FileFault} {place : List Text} {after : FileStore} :
      store.IsWritten (imagePath r) place p.image after → r.listing = some path →
      h.write after path (Utf8.encode p.listing) = (.error fault, after) → Interrupted h store r p after
  /-- The image is written, and the system took only the first bytes of the listing. -/
  | listingCut {path : Path} {kept : Nat} {fault : FileFault} {place other : List Text} {written after : FileStore} :
      store.IsWritten (imagePath r) place p.image written → r.listing = some path →
      h.writing written path (Utf8.encode p.listing) = .cut kept fault →
      written.IsWritten path other ((Utf8.encode p.listing).take kept) after → Interrupted h store r p after
  /-- Both are written, and a line that was asked for could not be shown. -/
  | listingSilenced {path : Path} {message : Text} {place other : List Text} {written after : FileStore} :
      store.IsWritten (imagePath r) place p.image written → r.listing = some path →
      written.IsWritten path other (Utf8.encode p.listing) after → r.verbose = true → h.Mutes .output message →
      Interrupted h store r p after

theorem isWritten_of_write {path : Path} {content : Bytes}
    (written : h.write store path content = (.ok (), after)) :
    ∃ place, store.Reaches path.text place ∧ store.IsWritten path place content after := by
  obtain ⟨place, reaches, isWritten, -⟩ := FileStore.isWritten_of_write (Host.write_eq_ok written)
  exact ⟨place, reaches, isWritten⟩

theorem Stage.interrupted {message : Text} (stage : Stage codecs h store e r after) (verbose : r.verbose = true)
    (mutes : h.Mutes .output message) :
    after = store ∨ ∃ p, Builds codecs h store e r p ∧ Interrupted h store r p after := by
  cases stage with
  | start => exact Or.inl rfl
  | image builds written =>
    obtain ⟨place, -, image⟩ := isWritten_of_write written
    exact Or.inr ⟨_, builds, .imageSilenced image verbose mutes⟩
  | listing builds written listing listed =>
    obtain ⟨place, -, image⟩ := isWritten_of_write written
    obtain ⟨other, -, rows⟩ := isWritten_of_write listed
    exact Or.inr ⟨_, builds, .listingSilenced image listing rows verbose mutes⟩

theorem Course.interrupted {result : Except Failure Unit} (course : Course codecs h store e r result after)
    (failed : result ≠ .ok ()) :
    after = store ∨ ∃ p, Builds codecs h store e r p ∧ Interrupted h store r p after := by
  cases course with
  | unsettled => exact Or.inl rfl
  | unassembled => exact Or.inl rfl
  | silenced verbose mutes stage => exact stage.interrupted verbose mutes
  | unwritten builds refused =>
    rcases Host.write_eq_error refused with kept | ⟨kept, cut, begun⟩
    · exact Or.inl kept
    · obtain ⟨place, -, image, -⟩ := FileStore.isWritten_of_write begun
      exact Or.inr ⟨_, builds, .imageCut cut image⟩
  | unlisted builds written listing refused =>
    obtain ⟨place, -, image⟩ := isWritten_of_write written
    rcases Host.write_eq_error refused with rfl | ⟨kept, cut, begun⟩
    · exact Or.inr ⟨_, builds, .unlisted image listing refused⟩
    · obtain ⟨other, -, rows, -⟩ := FileStore.isWritten_of_write begun
      exact Or.inr ⟨_, builds, .listingCut image listing cut rows⟩
  | imageOnly => exact absurd rfl failed
  | listed => exact absurd rfl failed

theorem not_mutes_willing {stream : Stream} {message : Text} : ¬ Host.willing.Mutes stream message := by
  rintro ⟨before, t, fault⟩
  cases fault

/-- Where the system does all that it is asked for, only the listing can fail behind the image. -/
theorem Interrupted.unlisted_of_willing {p : Program} (interrupted : Interrupted .willing store r p after) :
    ∃ path fault place, r.listing = some path ∧ store.IsWritten (imagePath r) place p.image after ∧
      Host.willing.write after path (Utf8.encode p.listing) = (.error fault, after) := by
  cases interrupted with
  | imageCut cut => cases cut
  | unlisted image listing refused => exact ⟨_, _, _, listing, image, refused⟩
  | listingCut _ _ cut => cases cut
  | imageSilenced _ _ mutes | listingSilenced _ _ _ _ mutes => exact absurd mutes not_mutes_willing

/-- A request that fails leaves every file as it was, unless its source assembles and it is interrupted
after it has begun to write: the system takes only a part of the image or of the listing, the listing,
which is written after the image, cannot be opened, or a line that was asked for cannot be shown. -/
theorem failure_keeps_files {codecs : Codecs} {h : Host} {store : FileStore} {e : Environment} {r : Request}
    (failed : (execute codecs h store e r).exit ≠ 0) :
    (execute codecs h store e r).session.store = store ∨
      ∃ p, Builds codecs h store e r p ∧ Interrupted h store r p (execute codecs h store e r).session.store := by
  obtain ⟨result, course, zero⟩ := execute_cases codecs h store e r
  exact course.interrupted fun ok => failed (zero.mpr ok)

/-- A source with a mistake, and an older image where the new one would go. -/
theorem failure_keeps_files_mistake : ∃ (store : FileStore) (r : Request),
    store = .ofRelative ["arbeid".toList]
      [("prog.slede".toList, Utf8.encode "STOPP\nNOPE r1\n".toList), ("ut.s8".toList, [1, 2])] [] ∧
    r = ⟨Path.read "prog.slede".toList, some (Path.read "ut.s8".toList), none, none, false, false⟩ ∧
    (execute .standard .willing store ⟨none, none, none⟩ r).exit = 1 ∧
    (execute .standard .willing store ⟨none, none, none⟩ r).session.store = store := by
  obtain ⟨store, r, files, request, exit⟩ : ∃ (store : FileStore) (r : Request),
      store = .ofRelative ["arbeid".toList]
        [("prog.slede".toList, Utf8.encode "STOPP\nNOPE r1\n".toList), ("ut.s8".toList, [1, 2])] [] ∧
      r = ⟨Path.read "prog.slede".toList, some (Path.read "ut.s8".toList), none, none, false, false⟩ ∧
      (execute .standard .willing store ⟨none, none, none⟩ r).exit = 1 := ⟨_, _, rfl, rfl, by decide +kernel⟩
  refine ⟨store, r, files, request, exit, ?_⟩
  have failed : (execute .standard .willing store ⟨none, none, none⟩ r).exit ≠ 0 := by
    rw [exit]
    exact Nat.one_ne_zero
  rcases failure_keeps_files failed with kept | ⟨p, -, interrupted⟩
  · exact kept
  · obtain ⟨path, -, -, listing, -⟩ := interrupted.unlisted_of_willing
    rw [request] at listing
    cases listing

/-- The directory of the listing is missing: the command fails, and the image it wrote stays. -/
theorem listing_failure_leaves_image : ∃ (store : FileStore) (o : Outcome),
    store = .ofRelative ["arbeid".toList] [("prog.slede".toList, Utf8.encode "STOPP\n".toList)] [] ∧
    run .standard .willing store ⟨none, none, none⟩ ["prog.slede".toList, "-l".toList, "borte/prog.lst".toList] =
      .outcome o ∧
    o.exit = 2 ∧ store.content? ["arbeid".toList, "prog.s8".toList] = none ∧
    o.session.store.content? ["arbeid".toList, "prog.s8".toList] =
      some (Utf8.encode ".SLEDE8\x00\x00".toList) := by
  refine ⟨_, _, rfl, rfl, ?_⟩
  decide +kernel

end AssembleCommand

end SledeCode
