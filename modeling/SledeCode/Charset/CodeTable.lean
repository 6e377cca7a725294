import SledeCode.Text.Basic

namespace SledeCode

/-- Characters with consecutive codes, the first of which has the code `first`. -/
structure CodeRun where
  first : Nat
  chars : Text

def CodeRun.ofString (run : Nat × String) : CodeRun := ⟨run.1, run.2.toList⟩

/-- The code of a character in the first run that has it. -/
def CodeRun.find? (runs : List CodeRun) (c : Char) : Option Nat :=
  runs.findSome? fun r => (r.chars.idxOf? c).map (r.first + ·)

/-- Consecutive characters with consecutive codes, the first of which is `code`. -/
structure CodeRange where
  first : Nat
  last : Nat
  code : Nat

def CodeRange.find? (ranges : List CodeRange) (c : Char) : Option Nat :=
  (ranges.find? fun r => r.first ≤ c.toNat && c.toNat ≤ r.last).map fun r =>
    r.code + (c.toNat - r.first)

/-- A character set in two parts, of which the second holds ideographs only. -/
structure CodeTable where
  signs : List CodeRun
  ideographs : List CodeRun

namespace CodeTable

/-- No code point before this one is an ideograph of the second part. -/
def firstIdeograph : Nat := 0x4E00

def ofStrings (signs ideographs : List (Nat × String)) : CodeTable :=
  ⟨signs.map .ofString, ideographs.map .ofString⟩

/-- The code of a character, if the set has it. -/
def code? (t : CodeTable) (c : Char) : Option Nat :=
  match CodeRun.find? t.signs c with
  | some code => some code
  | none => if firstIdeograph ≤ c.toNat then CodeRun.find? t.ideographs c else none

end CodeTable

/-- A code of two bytes, the more significant one first. -/
def twoBytes (code : Nat) : Bytes := [UInt8.ofNat (code / 0x100), UInt8.ofNat code]

end SledeCode
