import SledeCode.Text.Basic

namespace SledeCode

/-- A character set that spends exactly one byte on each of its characters. -/
structure CodePage where
  /-- The characters of the bytes from 0 on; U+FFFD marks a byte without a character. -/
  chars : Text
deriving DecidableEq, Repr

namespace CodePage

/-- The byte of a character, if the page has the character. -/
def byte? (p : CodePage) (c : Char) : Option UInt8 :=
  if c = '\ufffd' then none else (p.chars.idxOf? c).map UInt8.ofNat

/-- The characters with the code points from `lo` up to `hi`. -/
def consecutive (lo hi : Nat) : Text := (List.range' lo (hi - lo)).map Char.ofNat

def ascii : CodePage := ⟨consecutive 0 0x80⟩

def latin1 : CodePage := ⟨consecutive 0 0x100⟩

/-- A page that puts characters of its own behind ASCII. -/
def behindAscii (own : List String) : CodePage := ⟨consecutive 0 0x80 ++ own.flatMap String.toList⟩

/-- A page that puts characters of its own behind ASCII and the control characters up to 9F. -/
def behindControls (own : List String) : CodePage := ⟨consecutive 0 0xA0 ++ own.flatMap String.toList⟩

/-- A page that repeats some of ASCII among its own characters, and then uses no other byte for it. -/
def overAscii (own : List String) : CodePage :=
  let chars := own.flatMap String.toList
  ⟨(consecutive 0 0x80).map (fun c => if chars.contains c then '\ufffd' else c) ++ chars⟩

/-- The page with other characters for some of the bytes: each change is a run of characters and the
byte of the first of them. -/
def amend (p : CodePage) (changes : List (Nat × String)) : CodePage :=
  ⟨changes.foldl (fun chars change =>
    chars.take change.1 ++ change.2.toList ++ chars.drop (change.1 + change.2.length)) p.chars⟩

end CodePage

end SledeCode
