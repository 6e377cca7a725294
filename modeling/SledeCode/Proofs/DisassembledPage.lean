import SledeCode.Proofs.CommandSteps
import SledeCode.Proofs.FileWrites
import SledeCode.Proofs.PageReading
import SledeCode.Proofs.Reassembly
import SledeCode.Proofs.RecoveredCode
import SledeCode.Tool.SourceFile

namespace SledeCode

variable {codecs : Codecs}

theorem FileStore.read_of_write {s after : FileStore} {path : Path} {content : Bytes}
    (written : s.write path content = .ok after) : after.read path = .ok content := by
  obtain ⟨place, -, held, -⟩ := isWritten_of_write written
  rw [read, held.located]

/-- Whether a file can be written depends on where its path leads and not on the content. -/
theorem FileStore.write_eq_error {s : FileStore} {path : Path} {content : Bytes} {fault : FileFault}
    (refused : s.write path content = .error fault) (other : Bytes) : s.write path other = .error fault := by
  unfold write at refused ⊢
  generalize s.locate path.text = place at refused ⊢
  cases place with
  | file => cases refused
  | free => cases refused
  | _ => exact refused

/-- The file is a source that assembles to these bytes. -/
def SourceFile.AssemblesTo (store : FileStore) (path : Path) (bytes : Bytes) : Prop :=
  ∃ p, (assemble .willing .standard store path).outcome = .ok p ∧ p.body = bytes

theorem SourceFile.assemblesTo_of_read {store : FileStore} {path : Path} {text : Text} {bytes : Bytes}
    (held : store.read path = .ok (Utf8.encode text)) {p : Program}
    (assembled : (Assembly.assemble .standard (Utf8.normalNewlines text) path.text).outcome = .ok p)
    (body : p.body = bytes) : AssemblesTo store path bytes := by
  have found : (read .willing store path).outcome = .ok (Utf8.normalNewlines text) := by
    refine Run.bind_ok (Run.ofOutcome_mapError_eq_ok_iff.mpr held) ?_
    exact Run.bind_ok (Run.ofOutcome_mapError_eq_ok_iff.mpr (Utf8.readFile_encode text)) rfl
  exact ⟨p, Run.bind_ok found assembled, body⟩

namespace Disassembly

/-- The lines of a body, and any source that says the same, assemble to the listed bytes. -/
theorem assemble_sourceLines (s : Settings codecs) (limit : Option Nat) (body : Bytes) :
    ∃ lines, sourceLines (cells 0 (limit.map Int.ofNat) body) = .ok lines ∧
      (∀ line ∈ lines, line.IsControlFree) ∧
      ∀ source file : Text, source.significantLines = (Text.unlines lines).significantLines →
        ∃ p, (Assembly.assemble s source file).outcome = .ok p ∧ p.body = listedBytes limit body := by
  obtain ⟨refs, lines, done, lays, named, present⟩ := sourceLines_lays (cells_consecutive 0 limit body) s
  refine ⟨lines, done, isControlFree_sourceLines (isControlFree_cells _ _ _) done, fun source file same => ?_⟩
  obtain ⟨reread, kept⟩ := lines_unlines_lays lays
  have bound := binds_of_present reread 1 named (fun r member => kept (present r member))
  obtain ⟨pieces, records, encoded, flat⟩ := reread.exists_pieces bound 1
  have assembled : (Assembly.assemble s (Text.unlines lines) file).outcome = .ok _ :=
    Assembly.assemble_eq_ok_iff.mpr ⟨pieces, records, encoded, rfl⟩
  have agree := Assembly.assemble_sameUpToLine same s file
  rw [assembled] at agree
  generalize (Assembly.assemble s source file).outcome = outcome at agree ⊢
  cases agree with
  | @ok p q programs =>
    refine ⟨p, rfl, ?_⟩
    rw [Program.body, programs.image, ← Program.body, Assembly.body_programOf, flat]

end Disassembly

namespace DisassembleCommand

/-- The name of the input as the page gives it: what is printed is shown as the stream shows it, a file
keeps it. -/
def Request.shownName (r : Request) (echo : Text → Text) : Text :=
  if r.output.isSome then r.input.name else echo r.input.name

/-- The file is an image with this body, or it is the body where no header is expected. -/
def Request.FindsBody (r : Request) (h : Host) (store : FileStore) (body : Bytes) : Prop :=
  h.read store r.input = .ok (if r.header then Header.add body else body)

/-- The limit of a request is a number of words. -/
def Request.CountsWords (r : Request) : Prop := ∀ n, r.count = some n → 0 ≤ n

theorem Request.CountsWords.count_eq {r : Request} (natural : r.CountsWords) :
    r.count = (r.count.map Int.toNat).map Int.ofNat := by
  cases count : r.count with
  | none => rfl
  | some n => exact congrArg some (Int.toNat_of_nonneg (natural n count)).symm

variable {h : Host} {store : FileStore} {r : Request} {body : Bytes} {shown : List Text}

theorem ends_say {s : Session} {post : Except Failure Unit → Session → Prop} {t : Text}
    (shown : ∀ errors, post (.ok ()) { s with errors := errors })
    (muted : ∀ message errors, r.verbose = true → h.Mutes .errors message →
      post (.error (.stream message)) { s with errors := errors }) : (say h r t).Ends s post := by
  unfold say
  split
  · rename_i verbose
    exact Command.ends_echo (fun _ => shown _) (fun message _ => muted message _ verbose)
  · exact Command.ends_pure (shown s.errors)

/-- How a request can end that has a page to give. -/
inductive Course (h : Host) (store : FileStore) (r : Request) (text : Text) : Except Failure Unit → Session → Prop
  | silenced {message : Text} {s : Session} : r.verbose = true → h.Mutes .errors message →
      Course h store r text (.error (.stream message)) s
  | unprinted {message : Text} {s : Session} : r.output = none → h.Mutes .output message →
      Course h store r text (.error (.stream message)) s
  | printed {s : Session} : r.output = none → (h.showing .output [] text).fault = none →
      s.output = (h.showing .output [] text).shown → Course h store r text (.ok ()) s
  | unwritten {path : Path} {fault : FileFault} {s : Session} : r.output = some path →
      (h.write store path (Utf8.encode text)).1 = .error fault → Course h store r text (.error (.file fault)) s
  | written {path : Path} {s : Session} : r.output = some path →
      h.write store path (Utf8.encode text) = (.ok (), s.store) → Course h store r text (.ok ()) s

open Command in
/-- A body that can be listed is printed or written, as far as the system does that. -/
theorem steps_ends (found : r.FindsBody h store body)
    (listed : lines r.raw (Disassembly.cells 0 r.count body) = .ok shown) :
    (steps h r).Ends ⟨store, [], []⟩ (Course h store r (page r.input.name body.length shown)) := by
  let data := if r.header then Header.add body else body
  have headed : (if r.header then Disassembly.bodyOf data else pure data).outcome = .ok body := by
    cases header : r.header with
    | true => simp [data, header, Disassembly.bodyOf, Header.remove_add]
    | false => simp [data, header]
  have done : (Run.ofOutcome ((lines r.raw (Disassembly.cells 0 r.count body)).mapError .cell)).outcome =
      .ok shown := Run.ofOutcome_mapError_eq_ok_iff.mpr listed
  have silenced {s : Session} (message errors : Text) (verbose : r.verbose = true) (mutes : h.Mutes .errors message) :
      Course h store r (page r.input.name body.length shown) (.error (.stream message)) { s with errors := errors } :=
    .silenced verbose mutes
  refine ends_bind (ends_readFile ?_)
  rw [show h.read store r.input = .ok data from found]
  refine ends_bind (ends_perform fun _ => ?_)
  rw [headed]
  refine ends_bind (ends_say (fun _ => ?_) silenced)
  refine ends_bind (ends_perform fun _ => ?_)
  rw [done]
  cases output : r.output with
  | none =>
    refine ends_bind (ends_echo (fun kept => ?_) (fun _ _ mutes => .unprinted output mutes))
    exact ends_say (fun _ => .printed output kept rfl) silenced
  | some path =>
    refine ends_bind (ends_writeFile ?_)
    dsimp only
    rcases write : h.write store path (Utf8.encode (page r.input.name body.length shown)) with ⟨fault | ⟨⟩, after⟩
    · exact .unwritten output (by rw [write])
    · refine ends_bind (ends_say (fun _ => ?_) silenced)
      exact ends_say (fun _ => .written output write) silenced

/-- What the system shows on its output without a fault is the echo of the text. -/
def Echoes (h : Host) (echo : Text → Text) : Prop :=
  ∀ before t, (h.showing .output before t).fault = none → (h.showing .output before t).shown = echo t

/-- What can keep a request from giving its page: the system does not show the page or a line that was
asked for, the output cannot be written at all, or the system does not write it. -/
inductive Prevented (h : Host) (store : FileStore) (r : Request) : Prop
  | silenced {message : Text} : r.verbose = true → h.Mutes .errors message → Prevented h store r
  | unprinted {message : Text} : r.output = none → h.Mutes .output message → Prevented h store r
  | unwritable {path : Path} : r.output = some path → (∀ content written, store.write path content ≠ .ok written) →
      Prevented h store r
  | undone {path : Path} {content : Bytes} : r.output = some path → h.writing store path content ≠ .done →
      Prevented h store r

theorem prevented_of_write {path : Path} {content : Bytes} {fault : FileFault} (output : r.output = some path)
    (refused : (h.write store path content).1 = .error fault) : Prevented h store r := by
  by_cases done : h.writing store path content = .done
  · refine .unwritable output fun other written wrote => ?_
    simp only [Host.write, done] at refused
    cases write : store.write path content with
    | ok after =>
      rw [write] at refused
      cases refused
    | error fault =>
      rw [FileStore.write_eq_error write other] at wrote
      cases wrote
  · exact .undone output done

/-- What a request prints or writes without raw bytes can be assembled again, in whatever file what is
printed is saved: it gives the whole body, or as many words of it as were asked for. All that can go
wrong is that something cannot be shown or written. This takes a file name that, as shown, stays in the
comment it is put into. -/
theorem page_reassembles {h : Host} {echo : Text → Text} {store : FileStore} {r : Request} {body : Bytes}
    (echoes : Echoes h echo) (lawful : Text.IsEcho echo) (source : r.raw = false) (natural : r.CountsWords)
    (found : r.FindsBody h store body) (stays : (r.shownName echo).StaysComment) :
    (execute h store r).exit = 0 ∧
        (match r.output with
        | none => ∀ (saved : FileStore) (path : Path),
            saved.read path = .ok (Utf8.encode (execute h store r).session.output) →
              SourceFile.AssemblesTo saved path (Disassembly.listedBytes (r.count.map Int.toNat) body)
        | some path => SourceFile.AssemblesTo (execute h store r).session.store path
            (Disassembly.listedBytes (r.count.map Int.toNat) body)) ∨
      (execute h store r).exit ≠ 0 ∧ Prevented h store r := by
  -- The page says no more than its lines do, and those assemble to the listed bytes.
  obtain ⟨shown, done, free, assembles⟩ := Disassembly.assemble_sourceLines .standard (r.count.map Int.toNat) body
  rw [← natural.count_eq] at done
  have listed : lines r.raw (Disassembly.cells 0 r.count body) = .ok shown := by
    rw [lines, source]
    exact done
  have reads (saved : FileStore) (path : Path)
      (held : saved.read path = .ok (Utf8.encode (page (r.shownName echo) body.length shown))) :
      SourceFile.AssemblesTo saved path (Disassembly.listedBytes (r.count.map Int.toNat) body) := by
    obtain ⟨p, assembled, same⟩ := assembles _ path.text (significantLines_page stays body.length free)
    exact SourceFile.assemblesTo_of_read held assembled same
  obtain ⟨result, t, course, left, shows, zero⟩ :=
    Command.finish_of_ends (steps_ends found listed) h r.verbose "Disassembly".toList
  rw [← execute] at left shows zero
  rw [left, shows, Ne, zero]
  cases course with
  | silenced verbose mutes => exact Or.inr ⟨nofun, .silenced verbose mutes⟩
  | unprinted output mutes => exact Or.inr ⟨nofun, .unprinted output mutes⟩
  | unwritten output refused => exact Or.inr ⟨nofun, prevented_of_write output refused⟩
  | printed output kept print =>
    have name : r.shownName echo = echo r.input.name := by simp [Request.shownName, output]
    rw [output]
    refine Or.inl ⟨rfl, fun saved path held => reads saved path ?_⟩
    rw [name, ← echo_page lawful r.input.name body.length free, ← echoes _ _ kept, ← print]
    exact held
  | written output write =>
    have name : r.shownName echo = r.input.name := by simp [Request.shownName, output]
    rw [output]
    refine Or.inl ⟨rfl, reads t.store _ ?_⟩
    rw [name]
    exact FileStore.read_of_write (Host.write_eq_ok write)

/-- The second line of a name is a comment, which is styled: a word of an image is printed, and the whole
image is listed into a file as if it were a body. -/
theorem page_reassembles_two_line_name :
    let name : Text := "a\r\n ;\x1b[1mb.s8".toList
    let image : Bytes := Header.add [0x08, 0x00, 0xFF]
    let store : FileStore := .ofRelative ["arbeid".toList] [(name, image)] []
    let printed : Request := ⟨Path.read name, none, some 1, false, true, false⟩
    let written : Request := ⟨Path.read name, some (Path.read "ut.slede".toList), none, false, false, true⟩
    ((printed.shownName Text.plain).StaysComment ∧
      (execute .willing store printed).exit = 0 ∧ ∀ (saved : FileStore) (path : Path),
        saved.read path = .ok (Utf8.encode (execute .willing store printed).session.output) →
          SourceFile.AssemblesTo saved path [0x08, 0x00]) ∧
    (written.shownName Text.plain).StaysComment ∧ (execute .willing store written).exit = 0 ∧
      SourceFile.AssemblesTo (execute .willing store written).session.store (Path.read "ut.slede".toList) image := by
  intro name image store printed written
  have stays : (printed.shownName Text.plain).StaysComment ∧ (written.shownName Text.plain).StaysComment := by
    decide +kernel
  have echoes : Echoes .willing Text.plain := fun _ _ _ => rfl
  have body : printed.FindsBody .willing store [0x08, 0x00, 0xFF] := rfl
  have whole : written.FindsBody .willing store image := rfl
  refine ⟨⟨stays.1, ?_⟩, stays.2, ?_⟩
  · have natural : printed.CountsWords := by
      rintro n ⟨⟩
      decide
    rcases page_reassembles echoes Text.isEcho_plain rfl natural body stays.1 with done | ⟨failed, -⟩
    · exact done
    · exact absurd (by decide +kernel) failed
  · have natural : written.CountsWords := by
      rintro n ⟨⟩
    rcases page_reassembles echoes Text.isEcho_plain rfl natural whole stays.2 with done | ⟨failed, -⟩
    · exact done
    · exact absurd (by decide +kernel) failed

/-- An empty file whose name has an instruction on its second line: the listing of no bytes assembles to
that instruction. -/
theorem page_assembles_name_line :
    let store : FileStore := .ofRelative ["arbeid".toList] [("a\nNOPE".toList, [])] []
    ∃ o p, run .willing store ["a\nNOPE".toList, "--no-header".toList] = .outcome o ∧ o.exit = 0 ∧
      o.session.output = "; Disassembly of a\nNOPE\n; Size: 0 bytes\n\n".toList ∧
      (SourceFile.assemble .willing Settings.standard
        (.ofRelative [] [("ut.slede".toList, Utf8.encode o.session.output)] [])
        (Path.read "ut.slede".toList)).outcome = .ok p ∧ p.body = [0x0C, 0] := by
  intro store
  let p : Program := ⟨magic ++ [0x0C, 0], [⟨0, 2, "NOPE".toList, 2⟩], ⟨[]⟩⟩
  refine ⟨_, p, rfl, ?_⟩
  decide +kernel

end DisassembleCommand

end SledeCode
