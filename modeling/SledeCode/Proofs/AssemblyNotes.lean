import SledeCode.Proofs.AssembledPieces
import SledeCode.Proofs.StatementOffence

namespace SledeCode

variable {codecs : Codecs}

namespace Run

variable {α β : Type}

/-- Every note that is taken is of one kind, whatever the outcome. -/
def NotesOnly (x : Run α) (kind : Note → Prop) : Prop := ∀ n ∈ x.notes, kind n

theorem notesOnly_of_nil {x : Run α} (silent : x.notes = []) (kind : Note → Prop) : x.NotesOnly kind := by
  intro n taken
  rw [silent] at taken
  cases taken

theorem notesOnly_note {n : Note} {kind : Note → Prop} (here : kind n) : (note n).NotesOnly kind := by
  intro other taken
  rw [List.mem_singleton.mp taken]
  exact here

/-- A run in two parts notes what its parts note; the second starts from what the first has given. -/
theorem NotesOnly.bind {x : Run α} {next : α → Run β} {kind : Note → Prop} (first : x.NotesOnly kind)
    (later : ∀ a, x.outcome = .ok a → (next a).NotesOnly kind) : (x >>= next).NotesOnly kind := by
  intro n taken
  rcases mem_notes_bind_iff.mp taken with early | ⟨a, given, late⟩
  · exact first n early
  · exact later a given n late

end Run

namespace Layout

/-- Where every name is bound only once, nothing is said about the labels that would be a warning. -/
theorem itemNotes_of_distinct {t : LabelTable} {items : List Item}
    (distinct : ((t.bindings ++ items.filterMap Item.binding?).map Prod.fst).Nodup) :
    ∀ n ∈ itemNotes t items, n.severity = .debug := by
  induction items generalizing t with
  | nil => simp [itemNotes]
  | cons item rest ih =>
    cases item with
    | record r => exact ih distinct
    | label name address line =>
      have moved : ((t.bind name address).bindings ++ rest.filterMap Item.binding?).map Prod.fst =
          (t.bindings ++ (Item.label name address line :: rest).filterMap Item.binding?).map Prod.fst := by
        simp [LabelTable.bind, Item.binding?]
      have later := ih (moved ▸ distinct)
      have fresh : t.contains name = false := by
        rw [List.map_append] at distinct
        obtain ⟨-, -, apart⟩ := List.nodup_append.mp distinct
        refine List.any_eq_false.mpr (fun b bound same => ?_)
        exact apart b.1 (List.mem_map_of_mem bound) name List.mem_cons_self (beq_iff_eq.mp same)
      intro n taken
      rw [itemNotes, LabelTable.bindNotes, if_neg (by simp [fresh]), List.nil_append] at taken
      rcases List.mem_cons.mp taken with rfl | others
      · rfl
      · exact later n others

end Layout

namespace Assembly

/-- Besides the remarks on statements, only the drift of addresses is noted while records are encoded. -/
theorem emitRecords_notesOnly {e : Emission codecs} {file : Text} {kind : Note → Prop}
    (drift : ∀ line address offset, kind (.addressDrift line address offset)) {rs : List Record}
    (each : ∀ r ∈ rs, (e.encode (Statement.read r.raw)).NotesOnly kind) (offset : Nat) :
    (emitRecords e file offset rs).NotesOnly kind := by
  induction rs generalizing offset with
  | nil => exact Run.notesOnly_of_nil rfl kind
  | cons r rest ih =>
    obtain ⟨first, others⟩ := List.forall_mem_cons.mp each
    rw [emitRecords]
    refine Run.NotesOnly.bind (x := emitRecord e file r) first (fun bytes _ => ?_)
    have later : (do
        let others ← emitRecords e file (offset + bytes.length) rest
        pure (⟨r, bytes⟩ :: others) : Run (List Piece)).NotesOnly kind :=
      (ih others _).bind (fun _ _ => Run.notesOnly_of_nil rfl kind)
    dsimp only
    split
    · exact (Run.notesOnly_note (drift _ _ _)).bind (fun _ _ => later)
    · exact later

/-- An assembly warns of nothing if no name is bound twice and every label that is referred to is bound. -/
theorem assemble_notesOnly_debug {s : Settings codecs} {source : Text}
    (distinct : ((Layout.ofSource s source).labels.bindings.map Prod.fst).Nodup)
    (bound : ∀ r ∈ (Layout.ofSource s source).records, ∀ name, (Statement.read r.raw).RefersTo name →
      (Layout.ofSource s source).labels.resolve name ≠ LabelTable.undefined) (file : Text) :
    (assemble s source file).NotesOnly (·.severity = .debug) := by
  refine Run.NotesOnly.bind (x := Layout.run s source) ?_ (fun layout given => ?_)
  · intro n taken
    rcases List.mem_append.mp taken with labels | last
    · exact Layout.itemNotes_of_distinct (t := .empty) distinct n labels
    · rw [List.mem_singleton.mp last]
      rfl
  · cases given
    refine Run.NotesOnly.bind (emitRecords_notesOnly (fun _ _ _ => rfl) (fun r listed n taken => ?_) 0)
      (fun pieces _ => ?_)
    · obtain ⟨name, -, refers, unbound⟩ := (Emission.encode_endsBy _ _).remark_of_mem taken
      exact absurd unbound (bound r listed name refers)
    · exact Run.NotesOnly.bind (Run.notesOnly_note rfl) (fun _ _ => Run.notesOnly_of_nil rfl _)

end Assembly

end SledeCode
