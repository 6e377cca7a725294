import SledeCode.Failure
import SledeCode.Tool.Path

namespace SledeCode

/-- Files and directories by the parts of their absolute paths. A directory
that something lies in need not be listed. -/
structure FileStore where
  /-- The directory that relative paths start from. -/
  home : List Text
  files : List (List Text × Bytes)
  directories : List (List Text)
  /-- Places that are other names of a place, which is no link itself. -/
  links : List (List Text × List Text) := []
deriving DecidableEq, Repr

namespace FileStore

/-- What a path leads to. -/
inductive Place where
  | file (place : List Text) (content : Bytes)
  | directory
  /-- Nothing, but in a directory that exists. -/
  | free (place : List Text)
  | missing
  /-- A part of the path other than the last is a file. -/
  | notDirectory
  /-- The path, or a part of it that is looked up in a directory, is too long. -/
  | tooLong
  /-- The path holds a null character, which no file name has. -/
  | invalid

/-- The most bytes of a file name. -/
def longestName : Nat := 255

/-- The most bytes of a path. -/
def longestPath : Nat := 4095

def content? (s : FileStore) (place : List Text) : Option Bytes := s.files.lookup place

def isDirectory (s : FileStore) (place : List Text) : Bool :=
  place.isPrefixOf s.home || s.directories.any place.isPrefixOf ||
    s.files.any (fun f => place.isPrefixOf f.1 && place != f.1) ||
    s.links.any fun l => place.isPrefixOf l.1 && place != l.1

/-- The place that a place is another name of, or the place itself. -/
def resolve (s : FileStore) (place : List Text) : List Text := (s.links.lookup place).getD place

/-- Follows the parts of a path, one after the other, from a place that the
path has reached. -/
def follow (s : FileStore) (place : List Text) : List Text → Place
  | [] =>
    match s.content? place with
    | some content => .file place content
    | none => if s.isDirectory place then .directory else .free place
  | part :: rest =>
    if s.isDirectory place then
      if part = [] ∨ part = ['.'] then follow s place rest
      else if part = ['.', '.'] then follow s place.dropLast rest
      else if longestName < (Utf8.encode part).length then .tooLong
      else follow s (s.resolve (place ++ [part])) rest
    else if (s.content? place).isSome then .notDirectory
    else .missing

/-- What the text of a path leads to. Unlike a path in normal form, a slash at
the end asks for a directory. -/
def locate (s : FileStore) (raw : Text) : Place :=
  if raw.contains '\x00' then .invalid
  else if raw = [] then .missing
  else if longestPath < (Utf8.encode raw).length then .tooLong
  else if raw.head? = some Path.separator then follow s [] (raw.splitOn Path.separator)
  else follow s s.home (raw.splitOn Path.separator)

/-- The fault of a path that leads to no file. -/
def Place.fault (path : Path) : Place → FileFault
  | .directory => .directory path.text
  | .notDirectory => .notDirectory path.text
  | .tooLong => .nameTooLong path.text
  | .invalid => .nullInPath
  | _ => .missing path.text

def read (s : FileStore) (path : Path) : Except FileFault Bytes :=
  match s.locate path.text with
  | .file _ content => .ok content
  | place => .error (place.fault path)

/-- Replaces the content of a file, or adds the file behind the others. -/
def put (s : FileStore) (place : List Text) (content : Bytes) : FileStore :=
  if (s.content? place).isSome then
    { s with files := s.files.map fun f => if f.1 = place then (place, content) else f }
  else { s with files := s.files ++ [(place, content)] }

def write (s : FileStore) (path : Path) (content : Bytes) : Except FileFault FileStore :=
  match s.locate path.text with
  | .file place _ => .ok (s.put place content)
  | .free place => .ok (s.put place content)
  | place => .error (place.fault path)

/-- A store whose files and directories have paths relative to its home. -/
def ofRelative (home : List Text) (files : List (Text × Bytes)) (directories : List Text) :
    FileStore where
  home := home
  files := files.map fun f => (home ++ (Path.read f.1).parts, f.2)
  directories := directories.map fun d => home ++ (Path.read d).parts

/-- The files below the home directory by relative path, in code point order. -/
def listing (s : FileStore) : List (Text × Bytes) :=
  let below := s.files.filter fun f => s.home.isPrefixOf f.1
  (below.map fun f => (List.intercalate [Path.separator] (f.1.drop s.home.length), f.2)).mergeSort
    fun a b => Text.precedes a.1 b.1

end FileStore

end SledeCode
