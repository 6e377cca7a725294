import SledeCode.Failure

namespace SledeCode

/-- How a failure is told to the user of a command. -/
inductive Trouble where
  /-- The source or the image is wrong. -/
  | build
  /-- The request is wrong, or a file is missing, closed or of the wrong kind. -/
  | request
  /-- The input is not text. -/
  | notText
  | internal
deriving DecidableEq, Repr

def Failure.trouble : Failure → Trouble
  | .diagnostic _ => .build
  | .header _ => .build
  | .file (.missing _) => .request
  | .file (.permission _) => .request
  | .file (.directory _) => .request
  | .notUtf8 _ => .notText
  | _ => .internal

/-- The end of a failed command. -/
structure Report where
  exit : Nat
  text : Text
  /-- Whether the steps that led to an internal failure are asked for too. -/
  traced : Bool
deriving DecidableEq, Repr

/-- `task` names what failed to be built; it may be empty. -/
def Trouble.report (t : Trouble) (message : Text) (verbose : Bool) (task : Text) : Report :=
  match t with
  | .build =>
    let failed := if task = [] then [] else task ++ " failed:\n".toList
    ⟨1, failed ++ message ++ ['\n'], false⟩
  | .request => ⟨2, "Error: ".toList ++ message ++ ['\n'], false⟩
  | .notText => ⟨2, "Error: input is not valid UTF-8 text: ".toList ++ message ++ ['\n'], false⟩
  | .internal => ⟨3, "Internal error: ".toList ++ message ++ ['\n'], verbose⟩

end SledeCode
