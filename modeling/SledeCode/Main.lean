import SledeCode.Tool.Assemble
import SledeCode.Tool.Disassemble

namespace SledeCode

/-- The name of a place for the operating system. -/
def systemPath (place : List Text) : String := String.ofList (place.flatMap (Path.separator :: ·))

/-- Adds what the operating system has at a place to a store. What exists and
cannot be read is taken for a directory. -/
def FileStore.probe (s : FileStore) (place : List Text) : IO FileStore := do
  try
    let content ← IO.FS.readBinFile (systemPath place)
    return s.put place content.toList
  catch _ =>
    try
      let _ ← IO.FS.realPath (systemPath (if place = [] then [[]] else place))
      return { s with directories := place :: s.directories }
    catch _ => return s

/-- The place itself, unless the operating system follows a link there. -/
def realPlace (place : List Text) : IO (List Text) := do
  try
    return (Path.read (← IO.FS.realPath (systemPath place)).toString.toList).parts
  catch _ => return place

/-- Adds every place that the parts of a path pass on their way. -/
def FileStore.explore (s : FileStore) (place : List Text) : List Text → IO FileStore
  | [] => return s
  | part :: rest =>
    if part = [] ∨ part = ['.'] then s.explore place rest
    else if part = ['.', '.'] then s.explore place.dropLast rest
    else do
      let next := place ++ [part]
      let real ← realPlace next
      let linked := if real = next then s else { s with links := (next, real) :: s.links }
      (← linked.probe real).explore real rest

/-- Writes the files that differ between two stores. -/
def FileStore.save (before after : FileStore) : IO Unit := do
  for (place, content) in after.files do
    if before.content? place ≠ some content then
      IO.FS.writeBinFile (systemPath place) (ByteArray.mk content.toArray)

def usage (tool : String) : String := s!"Usage: {tool} [OPTIONS] INPUT_FILE"

/-- Tells what a command led to and gives its exit code. -/
def conclude (tool : String) (before : FileStore) : Response → IO UInt32
  | .usage => do
    IO.eprintln (usage tool)
    return 2
  | .help => do
    IO.println (usage tool)
    return 0
  | .outcome o => do
    before.save o.session.store
    IO.print (String.ofList o.session.output)
    IO.eprint (String.ofList o.session.errors)
    return UInt32.ofNat o.exit

def loadStore (paths : List Text) : IO FileStore := do
  let home := (Path.read (← IO.currentDir).toString.toList).parts
  let mut store : FileStore := { home := home, files := [], directories := [] }
  for path in paths do
    let start := if path.head? = some Path.separator then [] else home
    store ← store.explore start (path.splitOn Path.separator)
  return store

def loadEnvironment : IO Environment := do
  let find (name : Text) : IO (Option Text) := do
    return (← IO.getEnv (String.ofList name)).map String.toList
  return {
    strictLabels := ← find Environment.strictLabelsName
    legacySizing := ← find Environment.legacySizingName
    encodingName := ← find Environment.encodingNameName }

end SledeCode

open SledeCode in
/-- The first argument names the tool, and the others are the arguments of the tool. -/
def main (args : List String) : IO UInt32 := do
  match args with
  | "s8asm" :: rest =>
    let arguments := rest.map String.toList
    let store ← loadStore (AssembleCommand.pathsNamed arguments)
    conclude "s8asm" store (AssembleCommand.run .standard .willing store (← loadEnvironment) arguments)
  | "s8disasm" :: rest =>
    let arguments := rest.map String.toList
    let store ← loadStore (DisassembleCommand.pathsNamed arguments)
    conclude "s8disasm" store (DisassembleCommand.run .willing store arguments)
  | _ => do
    IO.eprintln "Usage: s8asm|s8disasm [OPTIONS] INPUT_FILE"
    return 2
