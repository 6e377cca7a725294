import SledeCode.Instruction
import SledeCode.LabelTable
import SledeCode.Run
import SledeCode.Settings
import SledeCode.Statement
import SledeCode.Text.Similarity
import SledeCode.Text.Uppercase

namespace SledeCode

/-- What a statement is encoded against. -/
structure Emission (codecs : Codecs) where
  labels : LabelTable
  options : Options

/-- What the statements of a program are encoded against, once its labels are known. -/
abbrev Settings.emission {codecs : Codecs} (s : Settings codecs) (labels : LabelTable) : Emission codecs :=
  ⟨labels, s.toOptions⟩

namespace Emission

variable {codecs : Codecs}

/-- A numeric literal, or nothing if the operand is of another form. -/
def literal (operand : Text) : Run (Option Int) :=
  .ofOutcome ((Operand.value? operand).mapError .overlong)

/-- Checks that a value fits its field. -/
def inRange (operand : Text) (value : Int) (bound : Nat) : Run (Fin (bound + 1)) :=
  if h : 0 ≤ value ∧ value ≤ bound then pure ⟨value.toNat, by omega⟩
  else .fail (.ofCause (.outOfRange operand value bound))

def register (operand : Text) : Run Register := do
  match ← Run.ofOutcome ((Operand.register? operand).mapError .overlong) with
  | some r => pure r
  | none => .fail (.ofCause (.badRegister operand))

/-- An address is a literal or a label. A label without a binding fails if
labels are strict, and otherwise gives the last address and a warning. -/
def address (e : Emission codecs) (operand : Text) : Run Address := do
  match ← literal operand with
  | some value => inRange operand value 4095
  | none =>
    let found := e.labels.resolve operand
    if found = LabelTable.undefined then
      if e.options.strictLabels then
        .fail (.ofCause (.undefinedLabel operand (Text.closeMatches operand e.labels.names)))
      else do
        Run.note (.undefinedLabel operand)
        pure 4095
    else inRange operand found 4095

/-- Sets a register to a byte if the operand is a literal, and otherwise to
another register. -/
def setting (dest : Register) (operand : Text) : Run Instruction := do
  match ← literal operand with
  | some value => do
    let byte ← inRange operand value 255
    pure (.setValue dest (UInt8.ofNat byte.val))
  | none => do
    let source ← register operand
    pure (.setRegister dest source)

/-- Known names close to an unknown mnemonic: the same one in capitals if there
is one, and otherwise those that look like it. -/
def suggestions (mnemonic : Text) : List Text :=
  let capitals := Text.upper mnemonic
  if knownWords.contains capitals then [capitals]
  else Text.closeMatches capitals knownWords

/-- One operand of a data line: a string, written under the name of a codec, or a
number of one byte. -/
def datumIn (find : Encoding.Registry) (name arg : Text) : Run Bytes :=
  if Operand.isString arg then
    match Operand.string? arg with
    | none => .fail (.ofCause (.badData arg "unterminated or empty string".toList))
    | some t => do
      let codec ← Run.ofOutcome ((find name).mapError .encoding)
      match codec.encode t with
      | .ok bytes => pure bytes
      | .error .unrepresentable =>
        .fail (.ofCause (.badData arg ("not representable in ".toList ++ name)))
      | .error (.transfer fault) => .fail (.encoding (.refused name fault))
  else do
    match ← literal arg with
    | none => .fail (.ofCause (.badData arg "expected a string or byte value".toList))
    | some value => do
      let byte ← inRange arg value 255
      pure [UInt8.ofNat byte.val]

/-- The bytes of the operands of a data line, in order. -/
def dataIn (find : Encoding.Registry) (name : Text) : List Text → Run Bytes
  | [] => pure []
  | arg :: rest => do
    let bytes ← datumIn find name arg
    let others ← dataIn find name rest
    pure (bytes ++ others)

def datum (e : Emission codecs) (arg : Text) : Run Bytes :=
  datumIn codecs.find e.options.encodingName arg

def data (e : Emission codecs) (args : List Text) : Run Bytes :=
  dataIn codecs.find e.options.encodingName args

/-- The number of operands is checked before any of them is read, and the
operands are read from left to right. -/
def instruction (e : Emission codecs) (m : Mnemonic) (s : Statement) : Run Instruction :=
  match m, s.args with
  | .plain op, [] => pure (.plain op)
  | .sett, [dest, source] => do
    let r ← register dest
    setting r source
  | .address op, [operand] => do
    let target ← address e operand
    pure (.address op target)
  | .memory op, [operand] => do
    let r ← register operand
    pure (.memory op r)
  | .stream op, [operand] => do
    let r ← register operand
    pure (.stream op r)
  | .alu op, [first, second] => do
    let left ← register first
    let right ← register second
    pure (.alu op left right)
  | .compare op, [first, second] => do
    let left ← register first
    let right ← register second
    pure (.compare op left right)
  | m, args => .fail (.ofCause (.wrongArity s.mnemonic args m.arity))

/-- The bytes of a statement: two for an instruction, any number for data. -/
def encode (e : Emission codecs) (s : Statement) : Run Bytes :=
  if s.mnemonic = dataWord then data e s.args
  else
    match Mnemonic.ofName? s.mnemonic with
    | some m => do
      let i ← instruction e m s
      pure i.bytes
    | none => .fail (.ofCause (.unknownMnemonic s.mnemonic (suggestions s.mnemonic)))

end Emission

end SledeCode
