import SledeCode.Text.Numeral

namespace SledeCode

/-- A place in a source file. The column is zero when it is not known. -/
structure Location where
  file : Text
  line : Int
  column : Int
deriving DecidableEq, Repr

def Location.text (l : Location) : Text :=
  let place := l.file ++ ':' :: Text.integer l.line
  if 0 < l.column then place ++ ':' :: Text.integer l.column else place

/-- What is wrong with a statement. -/
inductive Cause where
  | general (message : Text)
  | wrongArity (mnemonic : Text) (args : List Text) (expected : Int)
  | unknownMnemonic (mnemonic : Text) (suggestions : List Text)
  | badRegister (operand : Text)
  | badData (operand reason : Text)
  | outOfRange (operand : Text) (value maximum : Int)
  | undefinedLabel (name : Text) (similar : List Text)
deriving DecidableEq, Repr

namespace Cause

def argumentCount (n : Int) : Text :=
  if n = 0 then "no arguments".toList
  else if n = 1 then "one argument".toList
  else if n = 2 then "two arguments".toList
  else Text.integer n ++ " arguments".toList

def message : Cause → Text
  | .general message => message
  | .wrongArity mnemonic args expected =>
    Text.inQuotes mnemonic ++ " expects ".toList ++ argumentCount expected ++ ", got ".toList ++
      (if args = [] then "nothing".toList else Text.commaList args)
  | .unknownMnemonic mnemonic _ => "unknown instruction ".toList ++ Text.inQuotes mnemonic
  | .badRegister operand => "invalid register ".toList ++ Text.inQuotes operand
  | .badData operand reason =>
    "invalid .DATA literal ".toList ++ Text.inQuotes operand ++
      (if reason = [] then [] else " (".toList ++ reason ++ ")".toList)
  | .outOfRange operand _ _ => "value ".toList ++ Text.inQuotes operand ++ " out of range".toList
  | .undefinedLabel name _ => "undefined label ".toList ++ Text.inQuotes name

/-- Offers at most three names in place of an unknown one. -/
def didYouMean (names : List Text) : Option Text :=
  if names = [] then none
  else some ("did you mean ".toList ++ Text.commaList ((names.take 3).map Text.inQuotes) ++
    "?".toList)

/-- The advice that goes with a cause when none is given. -/
def hint : Cause → Option Text
  | .unknownMnemonic _ suggestions => didYouMean suggestions
  | .undefinedLabel _ similar => didYouMean similar
  | .badRegister _ => some "registers are r0 to r15".toList
  | .outOfRange _ _ maximum =>
    some ("expected 0 to ".toList ++ Text.integer maximum ++ " (0x".toList ++
      Text.hexField 0 maximum ++ ")".toList)
  | _ => none

/-- Advice given by the caller replaces the usual one. Where names can be
offered, they also stand in for empty or missing advice. -/
def hintInstead (cause : Cause) (given : Option Text) : Option Text :=
  match cause with
  | .unknownMnemonic _ (_ :: _) | .undefinedLabel _ (_ :: _) =>
    if given.getD [] = [] then cause.hint else given
  | _ => given

end Cause

/-- A cause with advice and, once known, the place and the line it stands on. -/
structure Diagnostic where
  cause : Cause
  hint : Option Text
  location : Option Location
  sourceLine : Option Text
deriving DecidableEq, Repr

namespace Diagnostic

def ofCause (cause : Cause) : Diagnostic := ⟨cause, cause.hint, none, none⟩

def locate (d : Diagnostic) (location : Location) (sourceLine : Option Text) : Diagnostic :=
  { d with location := some location, sourceLine := sourceLine }

/-- The source line, and below it a caret if the column is known. -/
def context (d : Diagnostic) : List Text :=
  match d.location, d.sourceLine with
  | some location, some line =>
    let shown := "    ".toList ++ line
    if 0 < location.column then
      [shown, List.replicate (4 + location.column - 1).toNat ' ' ++ ['^']]
    else [shown]
  | _, _ => []

def message (d : Diagnostic) : Text :=
  let place := match d.location with
    | some location => location.text ++ ": ".toList
    | none => []
  let advice := match d.hint with
    | some hint => if hint = [] then [] else ["hint: ".toList ++ hint]
    | none => []
  Text.unlines ((place ++ "error: ".toList ++ d.cause.message) :: d.context ++ advice)

end Diagnostic

end SledeCode
