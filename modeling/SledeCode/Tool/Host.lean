import SledeCode.Text.Styling
import SledeCode.Tool.FileStore

namespace SledeCode

/-- What becomes of a write. -/
inductive Writing where
  | done
  /-- The file is not opened, so that nothing changes. -/
  | refused (fault : FileFault)
  /-- The file is opened, which empties or creates it, and takes only so many bytes. -/
  | cut (kept : Nat) (fault : FileFault)
deriving DecidableEq, Repr

inductive Stream where
  | output
  | errors
deriving DecidableEq, Repr

/-- What becomes of a text on a stream: what is shown of it, and what went wrong. -/
structure Showing where
  shown : Text
  fault : Option Text
deriving DecidableEq, Repr

/-- How the system that a command runs on answers it. -/
structure Host where
  /-- Why a file may not be read, if it may not. -/
  reading : FileStore → Path → Option FileFault
  writing : FileStore → Path → Bytes → Writing
  /-- What becomes of a text behind the text that a stream has shown before. -/
  showing : Stream → Text → Text → Showing

namespace Host

/-- A system that does all that it is asked for. Nothing that it shows styles the terminal. -/
def willing : Host where
  reading _ _ := none
  writing _ _ _ := .done
  showing _ _ t := ⟨Text.plain t, none⟩

def read (h : Host) (s : FileStore) (path : Path) : Except FileFault Bytes :=
  match h.reading s path with
  | some fault => .error fault
  | none => s.read path

/-- Writes a file as far as the system does, and tells the files as they are then. -/
def write (h : Host) (s : FileStore) (path : Path) (content : Bytes) : Except FileFault Unit × FileStore :=
  match h.writing s path content with
  | .done =>
    match s.write path content with
    | .ok written => (.ok (), written)
    | .error fault => (.error fault, s)
  | .refused fault => (.error fault, s)
  | .cut kept fault =>
    match s.write path (content.take kept) with
    | .ok written => (.error fault, written)
    | .error other => (.error other, s)

end Host

end SledeCode
