import SledeCode.Proofs.LayoutAddresses

namespace SledeCode

variable {codecs : Codecs}

/-- The record of a line that stands so many lines further down and so many bytes further on. -/
def Record.moved (lines bytes : Nat) (r : Record) : Record := ⟨r.line + lines, r.address + bytes, r.raw⟩

namespace Layout

def Item.moved (lines bytes : Nat) : Item → Item
  | .label name address line => .label name (address + bytes) (line + lines)
  | .record r => .record (r.moved lines bytes)

theorem Item.record?_moved (lines bytes : Nat) (i : Item) :
    (i.moved lines bytes).record? = i.record?.map (Record.moved lines bytes) := by
  cases i <;> rfl

theorem Item.binding?_moved (lines bytes : Nat) (i : Item) :
    (i.moved lines bytes).binding? = i.binding?.map fun label => (label.1, label.2 + (bytes : Int)) := by
  cases i <;> simp [moved, binding?]

/-- How far lines move the address on. -/
def extent (s : Settings codecs) (lines : List Text) : Nat := total (lines.map fun raw => advance s (Text.trim raw))

/-- What a line adds to the layout has the number and the address of the line, and nothing else of what
came before it. -/
theorem items_moved (line : Text) (n a lines bytes : Nat) :
    items line (n + lines) (a + bytes) = (items line n a).map (Item.moved lines bytes) := by
  unfold items
  split <;> rfl

theorem scan_moved (s : Settings codecs) (n a lines bytes : Nat) (source : List Text) :
    scan s (n + lines) (a + bytes) source = (scan s n a source).map (Item.moved lines bytes) := by
  induction source generalizing n a with
  | nil => rfl
  | cons raw rest ih =>
    have later := ih (n + 1) (a + advance s (Text.trim raw))
    rw [Nat.add_right_comm n, Nat.add_right_comm a] at later
    rw [scan, scan, List.map_append, items_moved, later]

/-- The second part of the lines is laid out from where the first part ends. -/
theorem scan_append (s : Settings codecs) (n a : Nat) (first second : List Text) :
    scan s n a (first ++ second) = scan s n a first ++ scan s (n + first.length) (a + extent s first) second := by
  induction first generalizing n a with
  | nil => rfl
  | cons raw rest ih =>
    have number : n + 1 + rest.length = n + (raw :: rest).length := by
      rw [List.length_cons]
      omega
    have address : a + advance s (Text.trim raw) + extent s rest = a + extent s (raw :: rest) := by
      rw [Nat.add_assoc]
      rfl
    rw [List.cons_append, scan, scan, ih, number, address, List.append_assoc]

theorem filterMap_record?_moved (lines bytes : Nat) (found : List Item) :
    (found.map (Item.moved lines bytes)).filterMap Item.record? =
      (found.filterMap Item.record?).map (Record.moved lines bytes) := by
  rw [List.filterMap_map, List.map_filterMap]
  exact congrArg (List.filterMap · found) (funext (Item.record?_moved lines bytes))

theorem filterMap_binding?_moved (lines bytes : Nat) (found : List Item) :
    (found.map (Item.moved lines bytes)).filterMap Item.binding? =
      (found.filterMap Item.binding?).map fun label => (label.1, label.2 + (bytes : Int)) := by
  rw [List.filterMap_map, List.map_filterMap]
  exact congrArg (List.filterMap · found) (funext (Item.binding?_moved lines bytes))

/-- Laying out two sources, one behind the other, gives the records and the labels of the first, and then
those of the second: its lines are counted on from the lines of the first, and its addresses from the
end of the first. -/
theorem sources_laid_out_in_sequence (s : Settings codecs) (a b : Text) :
    (run s (a ++ '\n' :: b)).outcome = .ok {
      records := (ofSource s a).records ++
        (ofSource s b).records.map (Record.moved (Text.lines a).length (ofSource s a).size)
      labels := ⟨(ofSource s a).labels.bindings ++
        (ofSource s b).labels.bindings.map fun label => (label.1, label.2 + ((ofSource s a).size : Int))⟩
      size := (ofSource s a).size + (ofSource s b).size } := by
  have found : scan s 1 0 (Text.lines (a ++ '\n' :: b)) = scan s 1 0 (Text.lines a) ++
      (scan s 1 0 (Text.lines b)).map (Item.moved (Text.lines a).length (ofSource s a).size) := by
    rw [Text.lines_append_newline, scan_append]
    exact congrArg (_ ++ ·) (scan_moved s 1 0 _ _ _)
  have size : extent s (Text.lines (a ++ '\n' :: b)) = extent s (Text.lines a) + extent s (Text.lines b) := by
    rw [Text.lines_append_newline, extent, List.map_append, total_append]
    rfl
  show Except.ok (Layout.mk ((scan s 1 0 _).filterMap Item.record?) ⟨(scan s 1 0 _).filterMap Item.binding?⟩
    (extent s _)) = _
  rw [found, size, List.filterMap_append, List.filterMap_append, filterMap_record?_moved,
    filterMap_binding?_moved]
  rfl

end Layout

end SledeCode
