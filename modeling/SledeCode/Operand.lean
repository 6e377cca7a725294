import SledeCode.Text.Numeral

namespace SledeCode

/-- One of the sixteen registers. -/
abbrev Register := Fin 16

/-- A place in the 4 KB memory. -/
abbrev Address := Fin 4096

namespace Operand

/-- Decimal literals are read up to this many digits, leading zeros included. -/
def digitLimit : Nat := 4300

/-- A decimal literal past the limit, with the number of its digits. -/
structure Overlong where
  digits : Nat
deriving DecidableEq, Repr

def Overlong.message (o : Overlong) : Text :=
  "Exceeds the limit (4300 digits) for integer string conversion: value has ".toList ++
    Text.decimal o.digits ++
    " digits; use sys.set_int_max_str_digits() to increase the limit".toList

/-- `0x` and at least one hexadecimal digit. -/
def hexadecimal? : Text → Option Nat
  | '0' :: 'x' :: digits =>
    if digits ≠ [] ∧ digits.all Text.isHexDigit then some (Text.ofDigits 16 digits) else none
  | _ => none

/-- The sign before a number, if any: whether it is negative, and the rest. -/
def splitSign : Text → Bool × Text
  | '+' :: rest => (false, rest)
  | '-' :: rest => (true, rest)
  | rest => (false, rest)

/-- A numeric literal: hexadecimal behind `0x`, or decimal with an optional
sign. Text of another form is no literal. -/
def value? (t : Text) : Except Overlong (Option Int) :=
  match hexadecimal? t with
  | some n => .ok (some n)
  | none =>
    let (negative, digits) := splitSign t
    if digits = [] ∨ !digits.all Char.isDigit then .ok none
    else if digitLimit < digits.length then .error ⟨digits.length⟩
    else
      let n : Int := Text.ofDigits 10 digits
      .ok (some (if negative then -n else n))

/-- A register: `r` and an unsigned literal below sixteen. -/
def register? : Text → Except Overlong (Option Register)
  | 'r' :: '+' :: _ => .ok none
  | 'r' :: '-' :: _ => .ok none
  | 'r' :: number =>
    (value? number).map fun found => found.bind fun n =>
      if h : 0 ≤ n ∧ n < 16 then some ⟨n.toNat, by omega⟩ else none
  | _ => .ok none

/-- Whether an operand is meant as a string. -/
def isString : Text → Bool
  | c :: _ => c == Text.apostrophe
  | [] => false

/-- The characters between the first two quotes, if there are any. What
follows the second quote is ignored. -/
def string? : Text → Option Text
  | [] => none
  | c :: rest =>
    let body := Text.upTo Text.apostrophe rest
    if c = Text.apostrophe ∧ body ≠ [] ∧ body.length < rest.length then some body else none

end Operand

end SledeCode
