import SledeCode.Charset.Table.Jis0208
import SledeCode.Charset.Table.Jis0212

namespace SledeCode.Japanese

/-- The single byte of ASCII. The yen sign and the overline share the bytes of
the two signs that they take the place of in Japanese practice. -/
def basicByte? (c : Char) : Option UInt8 :=
  if c.toNat < 0x80 then some (UInt8.ofNat c.toNat)
  else if c = '¥' then some 0x5C
  else if c = '‾' then some 0x7E
  else none

/-- The byte of a half-width katakana letter. -/
def kanaByte? (c : Char) : Option UInt8 :=
  if 0xFF61 ≤ c.toNat && c.toNat ≤ 0xFF9F then some (UInt8.ofNat (c.toNat - 0xFEC0)) else none

/-- A code shifted out of the way of the half-width katakana. Two rows share a
first byte, and the second byte is never 7F. -/
def shifted (code : Nat) : Bytes :=
  let row := code / 0x100 - 0x21
  let place := row % 2 * 94 + (code % 0x100 - 0x21)
  [UInt8.ofNat (row / 2 + if row < 62 then 0x81 else 0xC1),
    UInt8.ofNat (place + if place < 63 then 0x40 else 0x41)]

def shiftJis? (c : Char) : Option Bytes :=
  match basicByte? c, kanaByte? c with
  | some b, _ => some [b]
  | none, some b => some [b]
  | none, none => (CodeTable.jis0208.code? c).map shifted

/-- Both bytes of a code have their high bit set. A half-width letter and a
code of the supplement each stand behind a byte of their own. -/
def eucJp? (c : Char) : Option Bytes :=
  match basicByte? c, kanaByte? c with
  | some b, _ => some [b]
  | none, some b => some [0x8E, b]
  | none, none =>
    match CodeTable.jis0208.code? c with
    | some code => some (twoBytes (code + 0x8080))
    | none => (CodeTable.jis0212.code? c).map fun code => 0x8F :: twoBytes (code + 0x8080)

end SledeCode.Japanese
