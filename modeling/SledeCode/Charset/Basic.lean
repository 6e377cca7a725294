import SledeCode.Charset.CodePage
import SledeCode.Charset.RowSet
import SledeCode.Text.Utf8

namespace SledeCode

inductive ByteOrder where
  | littleEndian
  | bigEndian
deriving DecidableEq, Repr

/-- Puts bytes, given from the least significant one up, in order. -/
def ByteOrder.arrange (o : ByteOrder) (bs : Bytes) : Bytes :=
  match o with
  | .littleEndian => bs
  | .bigEndian => bs.reverse

/-- A way to turn text into bytes. A marked form starts with a byte order mark. -/
inductive Charset where
  | page (p : CodePage)
  | rows (s : RowSet)
  | utf8 (marked : Bool)
  | utf16 (order : ByteOrder) (marked : Bool)
  | utf32 (order : ByteOrder) (marked : Bool)
deriving DecidableEq, Repr

namespace Charset

def byteOrderMark : Char := '\ufeff'

/-- A 16-bit unit. -/
def unit16 (o : ByteOrder) (n : Nat) : Bytes := o.arrange [UInt8.ofNat n, UInt8.ofNat (n / 0x100)]

/-- One unit, or two surrogates past the first 65536 characters. -/
def encode16 (o : ByteOrder) (c : Char) : Bytes :=
  if c.toNat < 0x10000 then unit16 o c.toNat
  else
    let n := c.toNat - 0x10000
    unit16 o (0xD800 + n / 0x400) ++ unit16 o (0xDC00 + n % 0x400)

def encode32 (o : ByteOrder) (c : Char) : Bytes :=
  let n := c.toNat
  o.arrange [UInt8.ofNat n, UInt8.ofNat (n / 0x100), UInt8.ofNat (n / 0x10000), 0]

/-- The bytes of a character inside a text, if the set has the character. -/
def encodeChar? : Charset → Char → Option Bytes
  | .page p, c => (p.byte? c).map fun b => [b]
  | .rows s, c => s.encodeChar? c
  | .utf8 _, c => some (Utf8.encodeChar c)
  | .utf16 o _, c => some (encode16 o c)
  | .utf32 o _, c => some (encode32 o c)

/-- The bytes that every text starts with. -/
def mark : Charset → Bytes
  | .utf8 true => Utf8.encodeChar byteOrderMark
  | .utf16 o true => encode16 o byteOrderMark
  | .utf32 o true => encode32 o byteOrderMark
  | _ => []

/-- The bytes of the characters, if the set has every one of them. -/
def encodeChars? (cs : Charset) : Text → Option Bytes
  | [] => some []
  | c :: rest =>
    match cs.encodeChar? c, encodeChars? cs rest with
    | some b, some bs => some (b ++ bs)
    | _, _ => none

/-- The bytes of a text, if the set has every character of it. -/
def encode? (cs : Charset) (t : Text) : Option Bytes := (cs.encodeChars? t).map (cs.mark ++ ·)

/-- How many bytes a text takes when each character that the set lacks is
written as one substitute byte. -/
def sizeReplacing (cs : Charset) (t : Text) : Nat :=
  cs.mark.length + total (t.map fun c => ((cs.encodeChar? c).map List.length).getD 1)

end Charset

end SledeCode
