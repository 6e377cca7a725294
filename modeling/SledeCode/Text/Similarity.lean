import SledeCode.Text.Basic

namespace SledeCode.Text

/-- A common run of two texts: where it starts in each, and how long it is. -/
structure CommonRun where
  left : Nat
  right : Nat
  size : Nat

/-- How far two texts agree from their start on, not going past a character
that `skip` names. -/
def agreement (skip : Char → Bool) : Text → Text → Nat
  | x :: xs, y :: ys => if x = y && !skip y then agreement skip xs ys + 1 else 0
  | _, _ => 0

/-- Improves `best` by the runs that start at the front of `a`, which is `left`
characters into its text, and anywhere in `b`. -/
def bestRunAt (skip : Char → Bool) (a : Text) (left : Nat) : Text → Nat → CommonRun → CommonRun
  | [], _, best => best
  | y :: ys, right, best =>
    let size := agreement skip a (y :: ys)
    bestRunAt skip a left ys (right + 1) (if best.size < size then ⟨left, right, size⟩ else best)

/-- The longest common run without skipped characters. Of several it is the
earliest in the first text, and then in the second. -/
def bestRun (skip : Char → Bool) (b : Text) : Text → Nat → CommonRun → CommonRun
  | [], _, best => best
  | x :: xs, left, best => bestRun skip b xs (left + 1) (bestRunAt skip (x :: xs) left b 0 best)

/-- The longest common run, widened on both sides while the neighbours agree,
skipped characters included. -/
def longestRun (skip : Char → Bool) (a b : Text) : CommonRun :=
  let core := bestRun skip b a 0 ⟨0, 0, 0⟩
  let before := agreement (fun _ => false) (a.take core.left).reverse (b.take core.right).reverse
  let behind := agreement (fun _ => false) (a.drop (core.left + core.size))
    (b.drop (core.right + core.size))
  ⟨core.left - before, core.right - before, core.size + before + behind⟩

/-- The number of characters that two texts share: those of the longest common
run, and those shared on either side of it. -/
def sharedCount (skip : Char → Bool) (a b : Text) : Nat :=
  match longestRun skip a b with
  | ⟨left, right, size⟩ =>
    if 0 < size ∧ left + size ≤ a.length then
      sharedCount skip (a.take left) (b.take right) + size +
        sharedCount skip (a.drop (left + size)) (b.drop (right + size))
    else 0
termination_by a.length
decreasing_by all_goals (simp only [List.length_take, List.length_drop]; omega)

/-- The characters of a long text that are so frequent that no run is built from them. -/
def frequentChars (t : Text) : Text :=
  if t.length < 200 then [] else t.eraseDups.filter fun c => t.length / 100 + 1 < t.count c

/-- How alike two texts are, as the fraction `shared / total`. -/
structure Likeness where
  shared : Nat
  total : Nat

/-- Twice the shared characters over the characters of both; two empty texts are alike. -/
def likeness (candidate word : Text) : Likeness :=
  let frequent := frequentChars word
  if candidate.length + word.length = 0 then ⟨1, 1⟩
  else ⟨2 * sharedCount frequent.contains candidate word, candidate.length + word.length⟩

/-- At least three fifths. -/
def Likeness.isClose (l : Likeness) : Bool := 3 * l.total ≤ 5 * l.shared

/-- The more alike first; of two equally alike, the later in code point order. -/
def closerThan (x y : Likeness × Text) : Bool :=
  if x.1.shared * y.1.total = y.1.shared * x.1.total then precedes y.2 x.2
  else y.1.shared * x.1.total < x.1.shared * y.1.total

/-- The candidates close to a word, at most three, the closest first. -/
def closeMatches (word : Text) (candidates : List Text) : List Text :=
  let close := (candidates.map fun c => (likeness c word, c)).filter fun m => m.1.isClose
  ((close.mergeSort closerThan).take 3).map (·.2)

end SledeCode.Text
