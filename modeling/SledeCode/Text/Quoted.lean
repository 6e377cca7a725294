import SledeCode.Text.Numeral
import SledeCode.Text.Printable

namespace SledeCode.Text

/-- Single quotes, unless the text holds one and no double quote. -/
def quoteMark (t : Text) : Char :=
  if t.contains apostrophe && !t.contains '\x22' then '\x22' else apostrophe

/-- A character behind a backslash, in two, four or eight hexadecimal digits. -/
def hexEscape (n : Nat) : Text :=
  if n < 0x100 then '\\' :: 'x' :: zeroPad 2 (hexLower n)
  else if n < 0x10000 then '\\' :: 'u' :: zeroPad 4 (hexLower n)
  else '\\' :: 'U' :: zeroPad 8 (hexLower n)

/-- One character of a quoted text. `shown` tells which characters stand for themselves. -/
def escaped (mark : Char) (shown : Char → Bool) (c : Char) : Text :=
  if c = mark || c = '\\' then ['\\', c]
  else if c = '\t' then ['\\', 't']
  else if c = '\n' then ['\\', 'n']
  else if c = '\r' then ['\\', 'r']
  else if shown c then [c]
  else hexEscape c.toNat

/-- The text between quote marks, with escapes for what cannot be seen. -/
def quoted (t : Text) : Text :=
  let mark := quoteMark t
  mark :: t.flatMap (escaped mark isPrintable) ++ [mark]

/-- Bytes between quote marks behind a `b`; bytes beyond printable ASCII are escaped. -/
def quotedBytes (bs : Bytes) : Text :=
  let t := bs.map fun b => Char.ofNat b.toNat
  let mark := quoteMark t
  'b' :: mark :: t.flatMap (escaped mark fun c => ' ' ≤ c && c ≤ '~') ++ [mark]

end SledeCode.Text
