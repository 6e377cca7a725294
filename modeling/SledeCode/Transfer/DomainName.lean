import SledeCode.Text.Composition
import SledeCode.Text.Direction
import SledeCode.Text.Folding
import SledeCode.Text.Quoted
import SledeCode.Transfer.Punycode

namespace SledeCode.DomainName

/-- Why a text is no domain name. -/
inductive Fault where
  | emptyOrLong
  | long
  | badCharacter (c : Char)
  /-- Letters of both directions in one label. -/
  | mixedDirections
  /-- A label with letters written from right to left has another character at
  one of its ends. -/
  | openEnds
  /-- A label looks encoded before it is. -/
  | encodedStart
deriving DecidableEq, Repr

def Fault.message : Fault → Text
  | .emptyOrLong => "label empty or too long".toList
  | .long => "label too long".toList
  | .badCharacter c => "Invalid character ".toList ++ Text.quoted [c]
  | .mixedDirections => "Violation of BIDI requirement 2".toList
  | .openEnds => "Violation of BIDI requirement 3".toList
  | .encodedStart => "Label starts with ACE prefix".toList

/-- Spaces, controls, private characters and what else has no place in a name. -/
def prohibitedRanges : List (Nat × Nat) := [
    (0x80, 0xA0), (0x340, 0x341), (0x6DD, 0x6DD), (0x70F, 0x70F), (0x1680, 0x1680),
    (0x180E, 0x180E), (0x2000, 0x200F), (0x2028, 0x202F), (0x205F, 0x2063), (0x206A, 0x206F),
    (0x2FF0, 0x2FFB), (0x3000, 0x3000), (0xE000, 0xF8FF), (0xFDD0, 0xFDEF), (0xFEFF, 0xFEFF),
    (0xFFF9, 0xFFFF), (0x1D173, 0x1D17A), (0x1FFFE, 0x1FFFF), (0x2FFFE, 0x2FFFF),
    (0x3FFFE, 0x3FFFF), (0x4FFFE, 0x4FFFF), (0x5FFFE, 0x5FFFF), (0x6FFFE, 0x6FFFF),
    (0x7FFFE, 0x7FFFF), (0x8FFFE, 0x8FFFF), (0x9FFFE, 0x9FFFF), (0xAFFFE, 0xAFFFF),
    (0xBFFFE, 0xBFFFF), (0xCFFFE, 0xCFFFF), (0xDFFFE, 0xDFFFF), (0xE0001, 0xE0001),
    (0xE0020, 0xE007F), (0xEFFFE, 0x10FFFF)]

def isProhibited (c : Char) : Bool :=
  prohibitedRanges.any fun (lo, hi) => lo ≤ c.toNat && c.toNat ≤ hi

def isAscii (t : Text) : Bool := t.all (·.toNat < 0x80)

/-- The normal form of a label, in which equal names are spelled alike. -/
def normalForm (label : Text) : Text := Text.joinMarks (Text.sortMarks (label.flatMap Text.fold))

/-- Checks what a label in normal form is made of. -/
def check (label : Text) : Except Fault Text :=
  match label.find? isProhibited with
  | some c => .error (.badCharacter c)
  | none =>
    if !label.any Text.isRightToLeft then .ok label
    else if label.any Text.isLeftToRight then .error .mixedDirections
    else if label.head?.any Text.isRightToLeft && label.getLast?.any Text.isRightToLeft then
      .ok label
    else .error .openEnds

/-- A label has one to 63 characters. -/
def sized (label : Text) : Except Fault Text :=
  if 0 < label.length ∧ label.length < 64 then .ok label else .error .emptyOrLong

/-- The mark of an encoded label. -/
def encodedMark : Text := "xn--".toList

/-- The ASCII form of a label. -/
def encodeLabel (label : Text) : Except Fault Text :=
  if isAscii label then sized label
  else do
    let normal ← check (normalForm label)
    if isAscii normal then sized normal
    else if encodedMark.isPrefixOf normal then .error .encodedStart
    else sized (encodedMark ++ Punycode.encode normal)

/-- The points that stand between labels. -/
def isPoint (c : Char) : Bool := c == '.' || c == '。' || c == '．' || c == '｡'

/-- A name in ASCII stands for itself, if its labels are not too long; the last
one may be empty. -/
def encodeAscii (t : Text) : Except Fault Text := do
  let labels := t.splitOn '.'
  let _ ← labels.dropLast.mapM sized
  if (labels.getLast?.getD []).length < 64 then .ok t else .error .long

/-- The ASCII form of a name: that of its labels, with points between them. -/
def encode (t : Text) : Except Fault Text :=
  if isAscii t then encodeAscii t
  else do
    let labels := t.splitOnP isPoint
    let ends := labels.getLast? == some []
    let encoded ← (if ends then labels.dropLast else labels).mapM encodeLabel
    .ok (List.intercalate ['.'] encoded ++ if ends then ['.'] else [])

end SledeCode.DomainName
