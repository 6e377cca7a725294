import SledeCode.Text.Basic

namespace SledeCode.Text

/-- Decimal digits without leading zeros. -/
def decimal (n : Nat) : Text := Nat.toDigits 10 n

/-- Hexadecimal digits in lower case without leading zeros. -/
def hexLower (n : Nat) : Text := Nat.toDigits 16 n

/-- Hexadecimal digits in upper case without leading zeros. -/
def hexUpper (n : Nat) : Text := (hexLower n).map Char.toUpper

/-- Leading zeros up to `width` digits. -/
def zeroPad (width : Nat) (digits : Text) : Text :=
  List.replicate (width - digits.length) '0' ++ digits

/-- Writes the sign of a negative number before its magnitude. -/
def signed (magnitude : Nat → Text) (n : Int) : Text :=
  if n < 0 then '-' :: magnitude n.natAbs else magnitude n.natAbs

def integer (n : Int) : Text := signed decimal n

/-- Upper-case hexadecimal, filled with zeros to `width` characters. A minus
sign takes one of them and stands before the zeros. -/
def hexField (width : Nat) (n : Int) : Text :=
  signed (fun m => zeroPad (if n < 0 then width - 1 else width) (hexUpper m)) n

/-- Lower-case hexadecimal behind `0x`, as numbers of any size are reported. -/
def hexNumber (n : Int) : Text := signed (fun m => '0' :: 'x' :: hexLower m) n

/-- An address in a note: `0x` and lower-case digits, at least five characters
in all, of which a minus sign is one. -/
def hexAddress (n : Int) : Text :=
  signed (fun m => '0' :: 'x' :: zeroPad (if n < 0 then 2 else 3) (hexLower m)) n

/-- Two upper-case hexadecimal digits. -/
def hexByte (b : UInt8) : Text := zeroPad 2 (hexUpper b.toNat)

def isHexDigit (c : Char) : Bool :=
  c.isDigit || ('a' ≤ c && c ≤ 'f') || ('A' ≤ c && c ≤ 'F')

/-- The value of a digit, for digits up to `f` in either case. -/
def digitValue (c : Char) : Nat :=
  if c.isDigit then c.toNat - 48
  else if 'a' ≤ c then c.toNat - 87
  else c.toNat - 55

/-- The number that a run of digits denotes, most significant digit first. -/
def ofDigits (base : Nat) (digits : Text) : Nat :=
  digits.foldl (fun n c => base * n + digitValue c) 0

end SledeCode.Text
