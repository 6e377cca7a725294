import SledeCode.Text.Basic

namespace SledeCode.Text

def escapeChar : Char := '\x1b'

/-- Characters between the bracket and the letter of a styling sequence. -/
def isStyleCode (c : Char) : Bool := c.isDigit || c == ';' || c == '?'

/-- Drops the styling sequences, given the beginning of one that is not ended yet. -/
def dropStyling (pending : Text) : Text → Text
  | [] => pending
  | c :: rest =>
    if 2 ≤ pending.length ∧ c.isAlpha then dropStyling [] rest
    else if (2 ≤ pending.length ∧ isStyleCode c) ∨ (pending.length = 1 ∧ c = '[') then
      dropStyling (pending ++ [c]) rest
    else if c = escapeChar then pending ++ dropStyling [c] rest
    else pending ++ c :: dropStyling [] rest

/-- The text without the sequences that style a terminal: an escape character,
an opening bracket, codes, and a letter. -/
def plain (t : Text) : Text := dropStyling [] t

end SledeCode.Text
