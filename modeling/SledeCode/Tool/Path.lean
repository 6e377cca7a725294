import SledeCode.Text.Basic

namespace SledeCode

/-- A path in normal form: the slashes it starts with, and its parts. A single
point is no part, and `..` is kept. -/
structure Path where
  root : Text
  parts : List Text
deriving DecidableEq, Repr

namespace Path

def separator : Char := '/'

/-- Two leading slashes differ from one, and more than two mean one. -/
def rootOf (raw : Text) : Text :=
  match (raw.takeWhile (· == separator)).length with
  | 0 => []
  | 2 => [separator, separator]
  | _ => [separator]

def read (raw : Text) : Path where
  root := rootOf raw
  parts := (raw.splitOn separator).filter fun part => part ≠ [] ∧ part ≠ ['.']

/-- The path as messages show it; the empty path is a point. -/
def text (p : Path) : Text :=
  match p.root ++ List.intercalate [separator] p.parts with
  | [] => ['.']
  | shown => shown

/-- The last part. -/
def name (p : Path) : Text := p.parts.getLast?.getD []

/-- A file name without its last point and what follows it, unless the point is
the first or the last character. -/
def stem (name : Text) : Text :=
  let extension := (name.reverse.takeWhile (· != '.')).length
  let before := name.length - extension - 1
  if extension ≠ 0 ∧ extension < name.length ∧ 0 < before then name.take before else name

/-- The path with another ending in its last part. -/
def withSuffix (p : Path) (suffix : Text) : Path :=
  { p with parts := p.parts.dropLast ++ [stem p.name ++ suffix] }

end Path

end SledeCode
