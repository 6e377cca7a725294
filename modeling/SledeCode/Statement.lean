import SledeCode.Mnemonic

namespace SledeCode

/-- What a trimmed line of source is. -/
inductive LineKind where
  | blank
  | comment
  | label
  | data
  | instruction
deriving DecidableEq, Repr

namespace Line

/-- The mark that starts a comment. -/
def commentMark : Char := ';'

/-- Letters, the Norwegian ones included, digits, hyphen and underscore. -/
def isLabelChar (c : Char) : Bool :=
  c.isAlphanum || c == '-' || c == '_' || "æøåÆØÅ".toList.contains c

/-- A label is defined by its name and one colon, and nothing else. -/
def isLabel (line : Text) : Bool :=
  let name := line.takeWhile isLabelChar
  name ≠ [] && line == name ++ [':']

/-- The name that a label line defines: all but its last character. -/
def labelName (line : Text) : Text := line.dropLast

/-- The line without a comment and without the blanks around the whole. -/
def code (raw : Text) : Text := Text.upTo commentMark (Text.trim raw)

/-- The first rule that fits decides: blank, comment, label, data, instruction. -/
def kind (line : Text) : LineKind :=
  if line = [] then .blank
  else if line.head? = some commentMark then .comment
  else if isLabel line then .label
  else if Text.upTo ' ' (code line) = dataWord then .data
  else .instruction

end Line

/-- A line of code or data: its first word and its operands. -/
structure Statement where
  mnemonic : Text
  args : List Text
deriving DecidableEq, Repr

namespace Statement

/-- Splits the operands at commas. Spaces count for nothing, not even inside a
string, and empty operands are dropped. -/
def splitArgs (t : Text) : List Text :=
  (((t.filter (· != ' ')).splitOn ',').map Text.trim).filter (· ≠ [])

/-- Reads a statement from a line. Every line has one reading. -/
def read (raw : Text) : Statement where
  mnemonic := Text.trim (Text.upTo ' ' (Line.code raw))
  args := splitArgs ((Text.after? ' ' (Line.code raw)).getD [])

def text (s : Statement) : Text :=
  if s.args = [] then s.mnemonic else s.mnemonic ++ ' ' :: Text.commaList s.args

end Statement

end SledeCode
