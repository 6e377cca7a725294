import SledeCode.Text.Quoted

namespace SledeCode

/-- The bytes that every program image starts with. -/
def magic : Bytes := ".SLEDE8".toList.map fun c => UInt8.ofNat c.toNat

/-- Why bytes are not a program image. -/
inductive HeaderFault where
  | tooShort (bytes : Nat)
  | wrongMagic (start : Bytes)
deriving DecidableEq, Repr

def HeaderFault.message : HeaderFault → Text
  | .tooShort bytes =>
    "not a SLEDE8 image: ".toList ++ Text.decimal bytes ++ " bytes is shorter than the header".toList
  | .wrongMagic start =>
    "not a SLEDE8 image: expected magic ".toList ++ Text.quotedBytes magic ++ ", got ".toList ++
      Text.quotedBytes start

namespace Header

def isPresent (data : Bytes) : Bool := data.take magic.length == magic

def add (body : Bytes) : Bytes := magic ++ body

/-- The bytes behind the header. -/
def remove (data : Bytes) : Except HeaderFault Bytes :=
  if data.length < magic.length then .error (.tooShort data.length)
  else if isPresent data then .ok (data.drop magic.length)
  else .error (.wrongMagic (data.take magic.length))

end Header

end SledeCode
