import SledeCode.Diagnostic
import SledeCode.Encoding.Codecs
import SledeCode.Header
import SledeCode.Operand

namespace SledeCode

/-- Why a file cannot be read or written. -/
inductive FileFault where
  | missing (path : Text)
  | permission (path : Text)
  | directory (path : Text)
  | notDirectory (path : Text)
  /-- The path, or a part of it, is longer than the file system allows. -/
  | nameTooLong (path : Text)
  | nullInPath
  /-- Anything else that the system says, such as that a disk is full. -/
  | system (message : Text)
deriving DecidableEq, Repr

def FileFault.message : FileFault → Text
  | .missing path => "[Errno 2] No such file or directory: ".toList ++ Text.quoted path
  | .permission path => "[Errno 13] Permission denied: ".toList ++ Text.quoted path
  | .directory path => "[Errno 21] Is a directory: ".toList ++ Text.quoted path
  | .notDirectory path => "[Errno 20] Not a directory: ".toList ++ Text.quoted path
  | .nameTooLong path => "[Errno 36] File name too long: ".toList ++ Text.quoted path
  | .nullInPath => "embedded null byte".toList
  | .system message => message

/-- Why a cell cannot be read or shown. -/
inductive CellFault where
  | notByte
  | noOperand
  | pastEnd (offset : Int) (length : Nat)
  | noSuchByte
deriving DecidableEq, Repr

def CellFault.message : CellFault → Text
  | .notByte => "bytes must be in range(0, 256)".toList
  | .noOperand => "list index out of range".toList
  | .pastEnd offset length =>
    "Offset ".toList ++ Text.integer offset ++ " beyond data length ".toList ++ Text.decimal length
  | .noSuchByte => "index out of range".toList

/-- Everything that can stop the work. -/
inductive Failure where
  | diagnostic (d : Diagnostic)
  | overlong (o : Operand.Overlong)
  | encoding (fault : Encoding.Fault)
  /-- The text encoding is unknown, or does not spend one byte per character. -/
  | encodingName (name : Text)
  | unknownOptions (names : List Text)
  | header (fault : HeaderFault)
  | notUtf8 (fault : Utf8.Fault)
  | file (fault : FileFault)
  /-- An output stream does not take what is shown on it. -/
  | stream (message : Text)
  | cell (fault : CellFault)
deriving DecidableEq, Repr

namespace Failure

def ofCause (cause : Cause) : Failure := .diagnostic (.ofCause cause)

def message : Failure → Text
  | .diagnostic d => d.message
  | .overlong o => o.message
  | .encoding fault => fault.message
  | .encodingName name =>
    "text_encoding must be a single-byte codec, got ".toList ++ Text.quoted name
  | .unknownOptions names =>
    "unknown assembler options: ".toList ++ Text.commaList (names.mergeSort Text.precedes)
  | .header fault => fault.message
  | .notUtf8 fault => fault.message
  | .file fault => fault.message
  | .stream message => message
  | .cell fault => fault.message

/-- Says where in the source a diagnostic arose; other failures have no place. -/
def locate (location : Location) (sourceLine : Text) : Failure → Failure
  | .diagnostic d => .diagnostic (d.locate location (some sourceLine))
  | other => other

end Failure

end SledeCode
