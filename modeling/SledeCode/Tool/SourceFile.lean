import SledeCode.Program
import SledeCode.Tool.Host

namespace SledeCode.SourceFile

variable {codecs : Codecs}

/-- The text of a source file. -/
def read (h : Host) (store : FileStore) (path : Path) : Run Text := do
  let bytes ← Run.ofOutcome ((h.read store path).mapError .file)
  let source ← Run.ofOutcome ((Utf8.readFile bytes).mapError .notUtf8)
  Run.note (.sourceRead source.length path.text)
  pure source

/-- Assembles a source file. -/
def assemble (h : Host) (s : Settings codecs) (store : FileStore) (path : Path) : Run Program := do
  let source ← read h store path
  Assembly.assemble s source path.text

/-- Writes an image to a file, which the note calls by the name it was given. -/
def writeImage (h : Host) (store : FileStore) (p : Program) (path : Path) (given : Text) :
    Run Unit × FileStore :=
  let (answer, after) := h.write store path p.image
  (do
    Run.ofOutcome (answer.mapError .file)
    Run.note (.imageWritten p.image.length given), after)

/-- Assembles a source file and, if an output is named, writes the image there. -/
def assembleTo (h : Host) (s : Settings codecs) (store : FileStore) (path : Path) (output : Option Text) :
    Run Program × FileStore :=
  let built := assemble h s store path
  match built.outcome, output with
  | .ok p, some given =>
    let (written, after) := writeImage h store p (Path.read given) given
    (do
      let p ← built
      written
      pure p, after)
  | _, _ => (built, store)

end SledeCode.SourceFile
