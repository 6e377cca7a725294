import SledeCode.Text.Basic

namespace SledeCode.Punycode

/-- The digit of a number below 36: the letters, then the decimal digits. -/
def digit (n : Nat) : Char :=
  if n < 26 then Char.ofNat (n + 0x61) else Char.ofNat (n - 26 + 0x30)

/-- A digit below the threshold of its place is the last one of a number. -/
def threshold (bias place : Nat) : Nat := max 1 (min 26 (36 * (place + 1) - bias))

/-- A number in digits, the least significant first, from a place on. -/
def digitsFrom (bias place n : Nat) : Text :=
  let t := threshold bias place
  if n < t then [digit n]
  else digit (t + (n - t) % (36 - t)) :: digitsFrom bias (place + 1) ((n - t) / (36 - t))
termination_by n
decreasing_by
  have positive : 1 ≤ threshold bias place := Nat.le_max_left ..
  have := Nat.div_le_self (n - threshold bias place) (36 - threshold bias place)
  omega

/-- How far a bias goes up for a step of a given size. -/
def slope (step : Nat) : Nat :=
  if 455 < step then 36 + slope (step / 35) else 36 * step / (step + 38)
termination_by step
decreasing_by omega

/-- The bias after a step, with the number of characters written so far. The
first step tends to be large and counts for less. -/
def adapt (step : Nat) (isFirst : Bool) (written : Nat) : Nat :=
  let damped := step / if isFirst then 700 else 2
  slope (damped + damped / written)

/-- What has been written, and how many places have been passed since. -/
structure Progress where
  output : Text
  step : Nat
  bias : Nat
  written : Nat

/-- Passes one character of the text while the characters with code point `n`
are being written; `basic` is the number of ASCII characters. -/
def pass (basic n : Nat) (p : Progress) (c : Char) : Progress :=
  if c.toNat < n then { p with step := p.step + 1 }
  else if c.toNat = n then {
    output := p.output ++ digitsFrom p.bias 0 p.step
    step := 0
    bias := adapt p.step (p.written == basic) (p.written + 1)
    written := p.written + 1 }
  else p

/-- Writes the characters of the given code points, which go up from `next`. -/
def passes (t : Text) (basic : Nat) : List Nat → Nat → Progress → Progress
  | [], _, p => p
  | n :: later, next, p =>
    let reached := { p with step := p.step + (n - next) * (p.written + 1) }
    let passed := t.foldl (pass basic n) reached
    passes t basic later (n + 1) { passed with step := passed.step + 1 }

/-- The ASCII characters and a hyphen, then the places of all others. -/
def encode (t : Text) : Text :=
  let basic := t.filter (·.toNat < 0x80)
  let others := ((t.map Char.toNat).filter (0x80 ≤ ·)).mergeSort.eraseDups
  let start : Progress := ⟨[], 0, 72, basic.length⟩
  (if basic = [] then [] else basic ++ ['-']) ++
    (passes t basic.length others 0x80 start).output

end SledeCode.Punycode
