import SledeCode.Emission
import SledeCode.Layout

namespace SledeCode

/-- One line of the debug map: where a source line lives in memory. -/
structure Entry where
  address : Int
  line : Int
  raw : Text
  size : Int
deriving DecidableEq, Repr

/-- An image with the map back to its source, and the labels it was made with. -/
structure Program where
  image : Bytes
  entries : List Entry
  labels : LabelTable
deriving DecidableEq, Repr

namespace Program

/-- The image without its header. -/
def body (p : Program) : Bytes := p.image.drop magic.length

/-- Whether an address lies in the bytes of an entry. An entry without bytes
covers its own address. -/
def covers (e : Entry) (address : Int) : Bool :=
  e.address ≤ address && address < e.address + max e.size 1

/-- The first entry that covers an address. -/
def entryAt? (p : Program) (address : Int) : Option Entry :=
  p.entries.find? fun e => covers e address

/-- The first four bytes, and two points if there are more. -/
def bytesShown (bs : Bytes) : Text :=
  List.intercalate [' '] ((bs.take 4).map Text.hexByte) ++
    (if 4 < bs.length then " ..".toList else [])

/-- A row of the listing: address, bytes, line number and source. -/
def listingRow (e : Entry) (bs : Bytes) : Text :=
  Text.hexField 3 e.address ++ "  ".toList ++ Text.padRight 14 (bytesShown bs) ++ ' ' ::
    Text.padLeft 5 (Text.integer e.line) ++ "  ".toList ++ e.raw

/-- The rows for entries whose bytes follow each other from `offset` on. -/
def listingRows (image : Bytes) (offset : Int) : List Entry → List Text
  | [] => []
  | e :: rest =>
    listingRow e (window image offset (offset + e.size)) :: listingRows image (offset + e.size) rest

def listing (p : Program) : Text :=
  (listingRows p.image magic.length p.entries).flatMap (· ++ ['\n'])

end Program

/-- A record with the bytes that it gave. -/
structure Piece where
  record : Record
  bytes : Bytes
deriving DecidableEq, Repr

def Piece.entry (p : Piece) : Entry where
  address := p.record.address
  line := p.record.line
  raw := p.record.raw
  size := p.bytes.length

namespace Assembly

variable {codecs : Codecs}

/-- Encodes one record; a failure tells the place of its line. -/
def emitRecord (e : Emission codecs) (file : Text) (r : Record) : Run Bytes :=
  (e.encode (Statement.read r.raw)).mapFailure (Failure.locate ⟨file, r.line, 0⟩ r.raw)

/-- Encodes records one after the other, the first at `offset` bytes into the
body. The first failure ends the work. -/
def emitRecords (e : Emission codecs) (file : Text) (offset : Nat) : List Record → Run (List Piece)
  | [] => pure []
  | r :: rest => do
    let bytes ← emitRecord e file r
    if r.address ≠ offset then Run.note (.addressDrift r.line r.address offset)
    let others ← emitRecords e file (offset + bytes.length) rest
    pure (⟨r, bytes⟩ :: others)

def programOf (pieces : List Piece) (labels : LabelTable) : Program where
  image := Header.add (pieces.flatMap Piece.bytes)
  entries := pieces.map Piece.entry
  labels := labels

/-- Lays the whole source out first, so that a label may be used before the
line that defines it, and then encodes it. -/
def assemble (s : Settings codecs) (source file : Text) : Run Program := do
  let layout ← Layout.run s source
  let pieces ← emitRecords (s.emission layout.labels) file 0 layout.records
  Run.note (.assembled file pieces.length (pieces.flatMap Piece.bytes).length)
  pure (programOf pieces layout.labels)

/-- The bytes of a single line, which sees no labels. Lines that are neither
code nor data give none. -/
def statement (s : Settings codecs) (raw : Text) : Run Bytes :=
  let line := Text.trim raw
  match Line.kind line with
  | .data | .instruction =>
    emitRecord (s.emission .empty) "<statement>".toList ⟨1, 0, line⟩
  | _ => pure []

end Assembly

end SledeCode
