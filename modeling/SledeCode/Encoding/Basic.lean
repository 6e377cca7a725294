import SledeCode.Charset.Basic
import SledeCode.Transfer.DomainName
import SledeCode.Transfer.Escape
import SledeCode.Transfer.Utf7

namespace SledeCode

/-- A way to write text for a channel that carries few characters. The bytes of
a character depend on those around it, or are many. -/
inductive TransferForm where
  | utf7
  | escape
  | rawEscape
  | punycode
  | domainName
  /-- Refuses every text. -/
  | undefined
deriving DecidableEq, Repr

namespace TransferForm

/-- Why a form refuses a text. -/
inductive Fault where
  | undefined
  /-- Substitutes for bad characters are asked for, and the form allows none. -/
  | noSubstitutes
  | domainName (fault : DomainName.Fault)
deriving DecidableEq, Repr

def Fault.message : Fault → Text
  | .undefined => "undefined encoding".toList
  | .noSubstitutes => "unsupported error handling replace".toList
  | .domainName fault => fault.message

/-- One byte for each character, all of which are among the first 256. -/
def bytesOf (t : Text) : Bytes := t.map fun c => UInt8.ofNat c.toNat

def encode : TransferForm → Text → Except Fault Bytes
  | .utf7, t => .ok (bytesOf (Utf7.encode t))
  | .escape, t => .ok (bytesOf (Escape.encode t))
  | .rawEscape, t => .ok (bytesOf (Escape.encodeRaw t))
  | .punycode, t => .ok (bytesOf (Punycode.encode t))
  | .domainName, t => ((DomainName.encode t).map bytesOf).mapError .domainName
  | .undefined, _ => .error .undefined

/-- How many bytes a text takes when substitutes are allowed, which only a
domain name minds. -/
def sizeReplacing : TransferForm → Text → Except Fault Nat
  | .domainName, _ => .error .noSubstitutes
  | form, t => (form.encode t).map List.length

end TransferForm

/-- A text encoding. -/
inductive Encoding where
  | charset (cs : Charset)
  | transfer (form : TransferForm)
deriving DecidableEq, Repr

namespace Encoding

/-- Why a text has no encoding. -/
inductive Refusal where
  /-- The character set lacks a character. -/
  | unrepresentable
  | transfer (fault : TransferForm.Fault)
deriving DecidableEq, Repr

def encode : Encoding → Text → Except Refusal Bytes
  | .charset cs, t =>
    match cs.encode? t with
    | some bytes => .ok bytes
    | none => .error .unrepresentable
  | .transfer form, t => (form.encode t).mapError .transfer

/-- How many bytes a text takes when each character that a set lacks is written
as one substitute byte. -/
def sizeReplacing : Encoding → Text → Except TransferForm.Fault Nat
  | .charset cs, t => .ok (cs.sizeReplacing t)
  | .transfer form, t => form.sizeReplacing t

end Encoding

/-- A text encoding as data lines use it: it writes a text or refuses it, and
tells how many bytes a text takes when substitutes are allowed. -/
structure Codec where
  encode : Text → Except Encoding.Refusal Bytes
  sizeReplacing : Text → Except TransferForm.Fault Nat

def Encoding.codec (e : Encoding) : Codec := ⟨e.encode, e.sizeReplacing⟩

namespace Codec

/-- Whether each of the characters takes one byte, or none because the encoding lacks it. -/
def spendsOneByteOn (c : Codec) : List Char → Except TransferForm.Fault Bool
  | [] => .ok true
  | sample :: rest =>
    match c.encode [sample] with
    | .ok bytes => if bytes.length = 1 then spendsOneByteOn c rest else .ok false
    | .error .unrepresentable => spendsOneByteOn c rest
    | .error (.transfer fault) => .error fault

/-- Whether samples of text take one byte per character. The encoding has to have
the first one, but may lack the Norwegian letter and the euro sign. -/
def spendsOneByte (c : Codec) : Except TransferForm.Fault Bool :=
  match c.encode ['A'] with
  | .ok bytes => if bytes.length = 1 then c.spendsOneByteOn ['æ', '€'] else .ok false
  | .error _ => .ok false

end Codec

end SledeCode
