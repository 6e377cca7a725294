import SledeCode.Text.Basic

namespace SledeCode

/-- The bits set in either number, both taken as infinite two's complement. -/
def bitUnion : Int → Int → Int
  | .ofNat a, .ofNat b => .ofNat (a ||| b)
  | .ofNat a, .negSucc b => .negSucc (b - (b &&& a))
  | .negSucc a, .ofNat b => .negSucc (a - (a &&& b))
  | .negSucc a, .negSucc b => .negSucc (a &&& b)

/-!
A word is two bytes, the opcode first and the parameter second:

    bits 15..12   11..8       7..4        3..0
         argument2  argument1   operation   operation class
         ---- value --------
         ---------- address ------------

Packing keeps only the low bits of each part, so any integer may be packed.
-/

namespace Word

/-- Four nibbles, the lowest first. -/
def ofNibbles (n0 n1 n2 n3 : Int) : Int :=
  n0 % 16 + 16 * (n1 % 16) + 256 * (n2 % 16) + 4096 * (n3 % 16)

/-- Two nibbles below a byte. -/
def ofNibblesByte (n0 n1 value : Int) : Int :=
  n0 % 16 + 16 * (n1 % 16) + 256 * (value % 256)

/-- An operation class below a 12-bit address. -/
def ofNibbleAddress (n0 address : Int) : Int := n0 % 16 + 16 * (address % 4096)

/-- The low byte of a number. -/
def lowByte (n : Int) : UInt8 := UInt8.ofNat (n % 256).toNat

/-- The opcode byte and the parameter byte. -/
def bytes (w : Int) : Bytes := [lowByte w, lowByte (w / 256)]

/-- The word of an opcode and a parameter that need not be bytes. -/
def ofParts (opcode param : Int) : Int := bitUnion opcode (256 * param)

/-- The word of two bytes. -/
def ofBytes (opcode param : UInt8) : Int := opcode.toNat + 256 * param.toNat

def operationClass (w : Int) : Int := w % 16

def operation (w : Int) : Int := w / 16 % 16

def addressField (w : Int) : Int := w / 16

def value (w : Int) : Int := w / 256

def argument1 (w : Int) : Int := w / 256 % 16

def argument2 (w : Int) : Int := w / 4096 % 16

end Word

end SledeCode
