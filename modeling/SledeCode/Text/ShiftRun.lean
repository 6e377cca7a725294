import SledeCode.Text.Basic

namespace SledeCode.Text

/-- The code points `first`, `first + step`, … up to `last`, each of which is
mapped to the one `shift` places further on. -/
structure ShiftRun where
  first : Nat
  last : Nat
  step : Nat
  shift : Int

/-- What the first run that covers a character maps it to. -/
def ShiftRun.target? (runs : List ShiftRun) (c : Char) : Option Char :=
  let n := c.toNat
  (runs.find? fun r => r.first ≤ n && n ≤ r.last && (n - r.first) % r.step == 0).map fun r =>
    Char.ofNat ((n : Int) + r.shift).toNat

end SledeCode.Text
