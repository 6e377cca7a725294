import SledeCode.Charset.Basic

namespace SledeCode.Utf7

/-- The characters that stand for themselves. -/
def isDirect (c : Char) : Bool :=
  c == '\t' || c == '\n' || c == '\r' || (' ' ≤ c && c ≤ '}' && c != '+' && c != '\\')

/-- The digit of a number below 64. -/
def digit (n : Nat) : Char :=
  if n < 26 then Char.ofNat (n + 0x41)
  else if n < 52 then Char.ofNat (n - 26 + 0x61)
  else if n < 62 then Char.ofNat (n - 52 + 0x30)
  else if n = 62 then '+'
  else '/'

def isDigit (c : Char) : Bool := c.isAlphanum || c == '+' || c == '/'

/-- Six bits to a digit, where zeros fill the last one up. -/
def digits : Bytes → Text
  | [] => []
  | [a] => [digit (a.toNat / 4), digit (a.toNat % 4 * 16)]
  | [a, b] =>
    [digit (a.toNat / 4), digit (a.toNat % 4 * 16 + b.toNat / 16), digit (b.toNat % 16 * 4)]
  | a :: b :: c :: rest =>
    digit (a.toNat / 4) :: digit (a.toNat % 4 * 16 + b.toNat / 16) ::
      digit (b.toNat % 16 * 4 + c.toNat / 64) :: digit (c.toNat % 64) :: digits rest

/-- A hyphen ends a run of digits, unless what follows ends it as well. -/
def closing : Text → Text
  | [] => ['-']
  | c :: _ => if isDigit c || c == '-' then ['-'] else []

/-- A plus sign starts a run of digits for characters that cannot stand for
themselves, and stands for itself before a hyphen. -/
def encode : Text → Text
  | [] => []
  | c :: rest =>
    if c = '+' then '+' :: '-' :: encode rest
    else if isDirect c then c :: encode rest
    else
      let run := c :: rest.takeWhile (!isDirect ·)
      let after := rest.dropWhile (!isDirect ·)
      '+' :: digits (run.flatMap (Charset.encode16 .bigEndian)) ++ closing after ++ encode after
termination_by t => t.length
decreasing_by
  all_goals have := (List.dropWhile_sublist (l := rest) (!isDirect ·)).length_le
  all_goals simp only [List.length_cons]; omega

end SledeCode.Utf7
