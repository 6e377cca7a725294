import SledeCode.Text.Quoted

namespace SledeCode

inductive Severity where
  | debug
  | warning
deriving DecidableEq, Repr

def Severity.name : Severity → Text
  | .debug => "DEBUG".toList
  | .warning => "WARNING".toList

/-- Something worth telling that does not stop the work. -/
inductive Note where
  | labelRedefined (name : Text) (address first : Int)
  | labelBound (name : Text) (address line : Nat)
  | laidOut (records labels bytes : Nat)
  | undefinedLabel (name : Text)
  | addressDrift (line address offset : Nat)
  | assembled (file : Text) (instructions bytes : Nat)
  | sourceRead (characters : Nat) (path : Text)
  | imageWritten (bytes : Nat) (path : Text)
  | headerTooShort (bytes : Nat)
  | headerWrong (start : Bytes)
  | headerFound (bodyBytes : Nat)
deriving DecidableEq, Repr

namespace Note

def severity : Note → Severity
  | .labelRedefined .. => .warning
  | .undefinedLabel _ => .warning
  | _ => .debug

def text : Note → Text
  | .labelRedefined name address first =>
    "Label ".toList ++ Text.inQuotes name ++ " redefined at ".toList ++ Text.hexAddress address ++
      "; keeping first definition at ".toList ++ Text.hexAddress first
  | .labelBound name address line =>
    "Label ".toList ++ Text.inQuotes name ++ " = ".toList ++ Text.hexAddress address ++
      " (line ".toList ++ Text.decimal line ++ ")".toList
  | .laidOut records labels bytes =>
    "Preprocessed ".toList ++ Text.decimal records ++ " records, ".toList ++ Text.decimal labels ++
      " labels, ".toList ++ Text.decimal bytes ++ " bytes".toList
  | .undefinedLabel name =>
    "Undefined label ".toList ++ Text.inQuotes name ++ ", encoding address 0xfff".toList
  | .addressDrift line address offset =>
    "Line ".toList ++ Text.decimal line ++ ": recorded address ".toList ++ Text.hexAddress address ++
      " differs from emitted offset ".toList ++ Text.hexAddress offset
  | .assembled file instructions bytes =>
    "Assembled ".toList ++ file ++ ": ".toList ++ Text.decimal instructions ++
      " instructions, ".toList ++ Text.decimal bytes ++ " bytes".toList
  | .sourceRead characters path =>
    "Read ".toList ++ Text.decimal characters ++ " characters from ".toList ++ path
  | .imageWritten bytes path =>
    "Wrote ".toList ++ Text.decimal bytes ++ " bytes to ".toList ++ path
  | .headerTooShort bytes =>
    "Image validation failed: too short (".toList ++ Text.decimal bytes ++ " bytes)".toList
  | .headerWrong start =>
    "Image validation failed: invalid magic ".toList ++ Text.quotedBytes start
  | .headerFound bodyBytes =>
    "Image validation passed: ".toList ++ Text.decimal bodyBytes ++ " bytes of program".toList

/-- The note behind the name of its severity. -/
def labelled (n : Note) : Text := n.severity.name ++ ": ".toList ++ n.text

end Note

end SledeCode
