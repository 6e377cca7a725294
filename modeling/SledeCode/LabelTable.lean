import SledeCode.Note

namespace SledeCode

/-- Label names bound to addresses, in the order in which they were bound. -/
structure LabelTable where
  bindings : List (Text × Int)
deriving DecidableEq, Repr

namespace LabelTable

/-- The address that stands for a name without a binding. -/
def undefined : Int := 0xFFFF

def empty : LabelTable := ⟨[]⟩

def bind (t : LabelTable) (name : Text) (address : Int) : LabelTable :=
  ⟨t.bindings ++ [(name, address)]⟩

/-- The address of the first binding of a name. -/
def find? (t : LabelTable) (name : Text) : Option Int := t.bindings.lookup name

/-- The first binding counts; a name without one has the address `undefined`. -/
def resolve (t : LabelTable) (name : Text) : Int := (t.find? name).getD undefined

def contains (t : LabelTable) (name : Text) : Bool := t.bindings.any fun b => b.1 == name

/-- Drops each pair whose name came before. -/
def firstOfEach : List (Text × Int) → List (Text × Int)
  | [] => []
  | b :: rest => b :: (firstOfEach rest).filter fun other => other.1 != b.1

/-- The first binding of each name, in order. -/
def firstBindings (t : LabelTable) : List (Text × Int) := firstOfEach t.bindings

/-- Each bound name once, in the order of first binding. -/
def names (t : LabelTable) : List Text := (t.bindings.map (·.1)).eraseDups

/-- The note on binding a name that is bound already. -/
def bindNotes (t : LabelTable) (name : Text) (address : Int) : List Note :=
  if t.contains name then [.labelRedefined name address (t.resolve name)] else []

def size (t : LabelTable) : Nat := t.bindings.length

end LabelTable

end SledeCode
