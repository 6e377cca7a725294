import SledeCode.Text.Basic

namespace SledeCode

/-- What follows an option name: nothing, or a value. -/
inductive OptionForm (α : Type) where
  | flag (option : α)
  | valued (option : Text → α)

/-- The options of a command line in the order in which they were given, and
the arguments that are no options. -/
structure Arguments (α : Type) where
  options : List α
  operands : List Text

namespace Arguments

variable {α : Type}

/-- An argument that holds options, read as far as it goes: `wanting` is an
option whose value is the next argument. -/
structure Reading (α : Type) where
  options : List α
  wanting : Option (Text → α)

/-- A group of one-letter options behind one hyphen. An option with a value
takes the rest of the group, or else the next argument. -/
def readGroup (find : Text → Option (OptionForm α)) : Text → Option (Reading α)
  | [] => some ⟨[], none⟩
  | c :: rest =>
    match find ['-', c] with
    | none => none
    | some (.flag option) => (readGroup find rest).map fun r => { r with options := option :: r.options }
    | some (.valued option) =>
      if rest = [] then some ⟨[], some option⟩ else some ⟨[option rest], none⟩

/-- One argument that starts with a hyphen. A long option may carry its value
behind an equals sign. -/
def readOption (find : Text → Option (OptionForm α)) (arg : Text) : Option (Reading α) :=
  if arg.take 2 = ['-', '-'] then
    match find (Text.upTo '=' arg), Text.after? '=' arg with
    | some (.flag option), none => some ⟨[option], none⟩
    | some (.valued option), some value => some ⟨[option value], none⟩
    | some (.valued option), none => some ⟨[], some option⟩
    | some (.flag _), some _ => none
    | none, _ => none
  else readGroup find arg.tail

/-- Reads a command line, or nothing if it is not in order. Options and
operands may be mixed; after `--` there are only operands. -/
def read (find : Text → Option (OptionForm α)) : List Text → Option (Arguments α)
  | [] => some ⟨[], []⟩
  | arg :: rest =>
    if arg = ['-', '-'] then some ⟨[], rest⟩
    else if arg.head? = some '-' ∧ 1 < arg.length then
      match readOption find arg, rest with
      | none, _ => none
      | some ⟨options, none⟩, rest =>
        (read find rest).map fun a => { a with options := options ++ a.options }
      | some ⟨_, some _⟩, [] => none
      | some ⟨options, some wanting⟩, value :: rest =>
        (read find rest).map fun a => { a with options := options ++ wanting value :: a.options }
    else (read find rest).map fun a => { a with operands := arg :: a.operands }

/-- The value of the last option for which `pick` finds one. -/
def last? {β : Type} (a : Arguments α) (pick : α → Option β) : Option β :=
  (a.options.filterMap pick).getLast?

end Arguments

end SledeCode
