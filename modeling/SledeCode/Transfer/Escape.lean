import SledeCode.Text.Quoted

namespace SledeCode.Escape

/-- Printable ASCII stands for itself, and a backslash starts the form of
everything else. -/
def encode (t : Text) : Text :=
  t.flatMap (Text.escaped '\\' fun c => ' ' ≤ c && c ≤ '~')

/-- The first 256 characters stand for themselves, the backslash among them. -/
def encodeRaw (t : Text) : Text :=
  t.flatMap fun c => if c.toNat < 0x100 then [c] else Text.hexEscape c.toNat

end SledeCode.Escape
