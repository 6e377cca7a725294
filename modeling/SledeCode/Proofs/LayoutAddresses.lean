import SledeCode.Layout

namespace SledeCode

variable {codecs : Codecs}

theorem Settings.codec_eq {s t : Settings codecs} (encoding : s.encodingName = t.encodingName) :
    s.codec = t.codec := by
  have found := s.found
  rw [encoding, t.found] at found
  exact (Except.ok.inj found).symm

theorem Settings.size_eq {s t : Settings codecs} (encoding : s.encodingName = t.encodingName) (text : Text) :
    s.size text = t.size text := by
  have sized := s.sizeReplacing_codec text
  rw [Settings.codec_eq encoding, t.sizeReplacing_codec] at sized
  exact (Except.ok.inj sized).symm

theorem Layout.dataSize_congr {s t : Settings codecs} (encoding : s.encodingName = t.encodingName)
    (args : List Text) : dataSize s args = dataSize t args := by
  have each (arg : Text) : argSize s arg = argSize t arg := by
    unfold argSize
    cases Operand.string? arg with
    | none => rfl
    | some text => exact Settings.size_eq encoding text
  rw [dataSize, dataSize, funext each]

/-- Whether a line of this kind gives a record. -/
def LineKind.isRecord : LineKind → Bool
  | .data | .instruction => true
  | _ => false

namespace Layout

/-- The lines of code and data, trimmed, with their numbers, the first line having number `n`. -/
def codeLines (n : Nat) (lines : List Text) : List (Text × Nat) :=
  (lines.zipIdx n).filterMap fun (raw, number) =>
    if (Line.kind (Text.trim raw)).isRecord then some (Text.trim raw, number) else none

/-- The names that label lines define, with the numbers of these lines. -/
def labelLines (n : Nat) (lines : List Text) : List (Text × Nat) :=
  (lines.zipIdx n).filterMap fun (raw, number) =>
    if Line.kind (Text.trim raw) = .label then some (Line.labelName (Text.trim raw), number) else none

def recordsOf (s : Settings codecs) (n a : Nat) (lines : List Text) : List Record :=
  (scan s n a lines).filterMap Item.record?

def bindingsOf (s : Settings codecs) (n a : Nat) (lines : List Text) : List (Text × Int) :=
  (scan s n a lines).filterMap Item.binding?

/-- A line of code or data is recorded at the current address and moves it on. -/
theorem scan_cons_of_isRecord {raw : Text} (kind : (Line.kind (Text.trim raw)).isRecord = true) (s : Settings codecs)
    (n a : Nat) (rest : List Text) :
    codeLines n (raw :: rest) = (Text.trim raw, n) :: codeLines (n + 1) rest ∧
      labelLines n (raw :: rest) = labelLines (n + 1) rest ∧
      recordsOf s n a (raw :: rest) =
        ⟨n, a, Text.trim raw⟩ :: recordsOf s (n + 1) (a + advance s (Text.trim raw)) rest ∧
      bindingsOf s n a (raw :: rest) = bindingsOf s (n + 1) (a + advance s (Text.trim raw)) rest := by
  cases same : Line.kind (Text.trim raw) with
  | blank | comment | label => simp [same, LineKind.isRecord] at kind
  | data | instruction =>
    simp [codeLines, labelLines, recordsOf, bindingsOf, scan, items, List.zipIdx_cons, same,
      LineKind.isRecord, Item.record?, Item.binding?, List.filterMap_cons]

/-- A label line binds its name to the current address. -/
theorem scan_cons_of_label {raw : Text} (kind : Line.kind (Text.trim raw) = .label) (s : Settings codecs)
    (n a : Nat) (rest : List Text) :
    codeLines n (raw :: rest) = codeLines (n + 1) rest ∧
      labelLines n (raw :: rest) = (Line.labelName (Text.trim raw), n) :: labelLines (n + 1) rest ∧
      recordsOf s n a (raw :: rest) = recordsOf s (n + 1) a rest ∧
      bindingsOf s n a (raw :: rest) =
        (Line.labelName (Text.trim raw), (a : Int)) :: bindingsOf s (n + 1) a rest := by
  simp [codeLines, labelLines, recordsOf, bindingsOf, scan, items, List.zipIdx_cons, kind,
    LineKind.isRecord, Item.record?, Item.binding?, List.filterMap_cons, advance]

/-- A line of another kind does nothing. -/
theorem scan_cons_of_other {raw : Text} (kind : (Line.kind (Text.trim raw)).isRecord = false)
    (other : Line.kind (Text.trim raw) ≠ .label) (s : Settings codecs) (n a : Nat) (rest : List Text) :
    codeLines n (raw :: rest) = codeLines (n + 1) rest ∧
      labelLines n (raw :: rest) = labelLines (n + 1) rest ∧
      recordsOf s n a (raw :: rest) = recordsOf s (n + 1) a rest ∧
      bindingsOf s n a (raw :: rest) = bindingsOf s (n + 1) a rest := by
  cases same : Line.kind (Text.trim raw) with
  | data | instruction => simp [same, LineKind.isRecord] at kind
  | label => exact absurd same other
  | blank | comment =>
    simp [codeLines, labelLines, recordsOf, bindingsOf, scan, items, List.zipIdx_cons, same,
      LineKind.isRecord, advance]

/-- What a line does to the layout: it is recorded, or it binds a label, or it does nothing. -/
theorem scan_cons_cases (s : Settings codecs) (n a : Nat) (raw : Text) (rest : List Text) :
    (codeLines n (raw :: rest) = (Text.trim raw, n) :: codeLines (n + 1) rest ∧
      labelLines n (raw :: rest) = labelLines (n + 1) rest ∧
      recordsOf s n a (raw :: rest) =
        ⟨n, a, Text.trim raw⟩ :: recordsOf s (n + 1) (a + advance s (Text.trim raw)) rest ∧
      bindingsOf s n a (raw :: rest) = bindingsOf s (n + 1) (a + advance s (Text.trim raw)) rest) ∨
    (codeLines n (raw :: rest) = codeLines (n + 1) rest ∧
      labelLines n (raw :: rest) = (Line.labelName (Text.trim raw), n) :: labelLines (n + 1) rest ∧
      recordsOf s n a (raw :: rest) = recordsOf s (n + 1) a rest ∧
      bindingsOf s n a (raw :: rest) =
        (Line.labelName (Text.trim raw), (a : Int)) :: bindingsOf s (n + 1) a rest) ∨
    (codeLines n (raw :: rest) = codeLines (n + 1) rest ∧
      labelLines n (raw :: rest) = labelLines (n + 1) rest ∧
      recordsOf s n a (raw :: rest) = recordsOf s (n + 1) a rest ∧
      bindingsOf s n a (raw :: rest) = bindingsOf s (n + 1) a rest) := by
  cases kind : Line.kind (Text.trim raw) with
  | data | instruction => exact Or.inl (scan_cons_of_isRecord (by rw [kind]; rfl) s n a rest)
  | label => exact Or.inr (Or.inl (scan_cons_of_label kind s n a rest))
  | blank | comment =>
    exact Or.inr (Or.inr (scan_cons_of_other (by rw [kind]; rfl) (by rw [kind]; decide) s n a rest))

/-- The records are the lines of code and data, in order. -/
theorem recordsOf_lines (s : Settings codecs) (n a : Nat) (lines : List Text) :
    (recordsOf s n a lines).map (fun r => (r.raw, r.line)) = codeLines n lines := by
  induction lines generalizing n a with
  | nil => rfl
  | cons raw rest ih =>
    rcases scan_cons_cases s n a raw rest with
      ⟨code, _, records, _⟩ | ⟨code, _, records, _⟩ | ⟨code, _, records, _⟩
    · rw [records, code, List.map_cons, ih]
    · rw [records, code, ih]
    · rw [records, code, ih]

theorem recordsOf_line_ge {s : Settings codecs} {n a : Nat} {lines : List Text} {r : Record}
    (member : r ∈ recordsOf s n a lines) : n ≤ r.line := by
  induction lines generalizing n a with
  | nil => simp [recordsOf, scan] at member
  | cons raw rest ih =>
    rcases scan_cons_cases s n a raw rest with
      ⟨_, _, records, _⟩ | ⟨_, _, records, _⟩ | ⟨_, _, records, _⟩
    · rw [records] at member
      rcases List.mem_cons.mp member with rfl | later
      · exact Nat.le_refl n
      · exact Nat.le_of_succ_le (ih later)
    · rw [records] at member
      exact Nat.le_of_succ_le (ih member)
    · rw [records] at member
      exact Nat.le_of_succ_le (ih member)

theorem recordsOf_isRecord {s : Settings codecs} {n a : Nat} {lines : List Text} {r : Record}
    (member : r ∈ recordsOf s n a lines) : (Line.kind r.raw).isRecord = true := by
  have listed : (r.raw, r.line) ∈ codeLines n lines := by
    rw [← recordsOf_lines s n a lines]
    exact List.mem_map_of_mem member
  obtain ⟨⟨raw, number⟩, _, kept⟩ := List.mem_filterMap.mp listed
  obtain ⟨record, same⟩ := Option.ite_none_right_eq_some.mp kept
  rw [← (Prod.mk.inj (Option.some.inj same)).1]
  exact record

theorem labelLines_ge {n : Nat} {lines : List Text} {label : Text × Nat}
    (member : label ∈ labelLines n lines) : n ≤ label.2 := by
  obtain ⟨⟨raw, number⟩, atLine, kept⟩ := List.mem_filterMap.mp member
  have lower := (List.mem_zipIdx atLine).1
  dsimp only at kept
  split at kept
  · rw [← Option.some.inj kept]
    exact lower
  · cases kept

theorem recordsOf_sorted (s : Settings codecs) (n a : Nat) (lines : List Text) :
    (recordsOf s n a lines).Pairwise (fun r later => r.line < later.line) := by
  induction lines generalizing n a with
  | nil => exact .nil
  | cons raw rest ih =>
    rcases scan_cons_cases s n a raw rest with
      ⟨_, _, records, _⟩ | ⟨_, _, records, _⟩ | ⟨_, _, records, _⟩
    · rw [records]
      exact .cons (fun later member => recordsOf_line_ge member) (ih _ _)
    · rw [records]
      exact ih _ _
    · rw [records]
      exact ih _ _

/-- How far the records on the lines before a line move the address on. -/
def advanceBefore (s : Settings codecs) (rs : List Record) (line : Nat) : Nat :=
  total ((rs.filter fun r => r.line < line).map fun r => advance s r.raw)

theorem advanceBefore_cons_of_lt {s : Settings codecs} {r : Record} {rs : List Record} {line : Nat}
    (before : r.line < line) :
    advanceBefore s (r :: rs) line = advance s r.raw + advanceBefore s rs line := by
  simp [advanceBefore, before]

theorem advanceBefore_of_le {s : Settings codecs} {rs : List Record} {line : Nat}
    (after : ∀ r ∈ rs, line ≤ r.line) : advanceBefore s rs line = 0 := by
  have none : (rs.filter fun r => r.line < line) = [] := by
    rw [List.filter_eq_nil_iff]
    intro r member
    simpa using after r member
  simp [advanceBefore, none]

/-- A record stands where the advances of the records before it lead to. -/
theorem recordsOf_address {s : Settings codecs} {n a k : Nat} {lines : List Text} {r : Record}
    (found : (recordsOf s n a lines)[k]? = some r) :
    r.address = a + total (((recordsOf s n a lines).take k).map fun r => advance s r.raw) := by
  induction lines generalizing n a k with
  | nil => simp [recordsOf, scan] at found
  | cons raw rest ih =>
    rcases scan_cons_cases s n a raw rest with
      ⟨_, _, records, _⟩ | ⟨_, _, records, _⟩ | ⟨_, _, records, _⟩
    · rw [records] at found ⊢
      cases k with
      | zero =>
        cases found
        simp
      | succ k =>
        rw [List.getElem?_cons_succ] at found
        rw [ih found, List.take_succ_cons, List.map_cons, total_cons, Nat.add_assoc]
    · rw [records] at found ⊢
      exact ih found
    · rw [records] at found ⊢
      exact ih found

/-- Each label line binds its name to the address that the records on earlier lines lead to. -/
theorem bindingsOf_eq (s : Settings codecs) (n a : Nat) (lines : List Text) :
    bindingsOf s n a lines = (labelLines n lines).map fun label =>
      (label.1, (a : Int) + advanceBefore s (recordsOf s n a lines) label.2) := by
  induction lines generalizing n a with
  | nil => rfl
  | cons raw rest ih =>
    rcases scan_cons_cases s n a raw rest with
      ⟨_, labels, records, bindings⟩ | ⟨_, labels, records, bindings⟩ | ⟨_, labels, records, bindings⟩
    · rw [bindings, labels, records, ih]
      refine List.map_congr_left (fun label member => ?_)
      have before : n < label.2 := labelLines_ge member
      rw [advanceBefore_cons_of_lt (r := ⟨n, a, Text.trim raw⟩) before]
      simp only [Int.natCast_add, Int.add_assoc]
    · have none : advanceBefore s (recordsOf s (n + 1) a rest) n = 0 :=
        advanceBefore_of_le (fun r member => Nat.le_of_succ_le (recordsOf_line_ge member))
      rw [bindings, labels, records, ih, List.map_cons, none, Int.natCast_zero, Int.add_zero]
    · rw [bindings, labels, records, ih]

/-- A layout depends on the settings only through how far each line moves the address on. -/
theorem scan_congr {s t : Settings codecs} (same : ∀ line, advance s line = advance t line) (n a : Nat)
    (lines : List Text) : scan s n a lines = scan t n a lines := by
  induction lines generalizing n a with
  | nil => rfl
  | cons raw rest ih => rw [scan, scan, same, ih]

theorem ofSource_congr {s t : Settings codecs} (same : ∀ line, advance s line = advance t line) (source : Text) :
    ofSource s source = ofSource t source := by
  simp only [ofSource, scan_congr same, same]

theorem advance_congr {s t : Settings codecs} (sizing : s.legacySizing = t.legacySizing)
    (encoding : s.encodingName = t.encodingName) (line : Text) : advance s line = advance t line := by
  simp only [advance, sizing, dataSize_congr encoding]

theorem line_lt_of_index {s : Settings codecs} {source : Text} {k j : Nat} {r later : Record}
    (found : (ofSource s source).records[k]? = some r) (foundLater : (ofSource s source).records[j]? = some later)
    (before : k < j) : r.line < later.line := by
  obtain ⟨_, rfl⟩ := List.getElem?_eq_some_iff.mp found
  obtain ⟨_, rfl⟩ := List.getElem?_eq_some_iff.mp foundLater
  exact List.pairwise_iff_getElem.mp (recordsOf_sorted s 1 0 (Text.lines source)) k j _ _ before

end Layout

end SledeCode
