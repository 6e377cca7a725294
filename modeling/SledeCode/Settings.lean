import SledeCode.Failure

namespace SledeCode

/-- The choices of an assembly run, not checked yet. -/
structure Options where
  /-- An undefined label is an error, and not only a warning. -/
  strictLabels : Bool
  /-- Data lines advance the address by their number of operands. -/
  legacySizing : Bool
  /-- The name of the character set of string data. -/
  encodingName : Text
deriving DecidableEq, Repr

def Options.standard : Options := ⟨true, false, "latin-1".toList⟩

/-- Options whose encoding is known and passes for one byte per character. -/
structure Settings (codecs : Codecs) extends Options where
  codec : Codec
  found : codecs.find encodingName = .ok codec
  oneByte : codec.spendsOneByte = .ok true

namespace Settings

variable {codecs : Codecs}

theorem lawful (s : Settings codecs) : s.codec.IsLawful := codecs.lawful _ _ s.found s.oneByte

/-- How many bytes a text takes with substitutes. -/
def size (s : Settings codecs) (t : Text) : Nat := s.codec.size s.lawful t

theorem sizeReplacing_codec (s : Settings codecs) (t : Text) : s.codec.sizeReplacing t = .ok (s.size t) :=
  s.codec.sizeReplacing_eq_size s.lawful t

def ofOptions (codecs : Codecs) (o : Options) : Except Failure (Settings codecs) :=
  match found : codecs.find o.encodingName with
  | .ok codec =>
    match oneByte : codec.spendsOneByte with
    | .ok true => .ok ⟨o, codec, found, oneByte⟩
    | .ok false => .error (.encodingName o.encodingName)
    | .error fault => .error (.encoding (.refused o.encodingName fault))
  | .error .nullInName => .error (.encoding .nullInName)
  | .error _ => .error (.encodingName o.encodingName)

/-- The settings with a code page under one of its names. -/
def ofPage (o : Options) (p : CodePage) (found : Encoding.find o.encodingName = .ok (.charset (.page p)))
    (has : (p.byte? 'A').isSome = true) : Settings .standard where
  toOptions := o
  codec := (Encoding.charset (.page p)).codec
  found := Encoding.registry_eq_ok_iff.mpr ⟨_, found, rfl⟩
  oneByte := p.spendsOneByte_codec has

/-- The standard encoding with any choice for the labels and the sizes. -/
def latin1 (strictLabels legacySizing : Bool) : Settings .standard :=
  ofPage ⟨strictLabels, legacySizing, "latin-1".toList⟩ .latin1 rfl (by decide +kernel)

def standard : Settings .standard := latin1 true false

end Settings

/-- Options given by name, each of which replaces that of a base, together with
the given names that are no options. -/
structure Overrides where
  strictLabels : Option Bool
  legacySizing : Option Bool
  encodingName : Option Text
  unknown : List Text
deriving DecidableEq, Repr

namespace Overrides

def none : Overrides := ⟨.none, .none, .none, []⟩

def apply (o : Overrides) (base : Options) : Options where
  strictLabels := o.strictLabels.getD base.strictLabels
  legacySizing := o.legacySizing.getD base.legacySizing
  encodingName := o.encodingName.getD base.encodingName

/-- The settings with the overrides. The encoding is checked before the names. -/
def settings (codecs : Codecs) (o : Overrides) (base : Options) : Except Failure (Settings codecs) := do
  let settings ← Settings.ofOptions codecs (o.apply base)
  if o.unknown = [] then .ok settings else .error (.unknownOptions o.unknown)

end Overrides

/-- The variables of the environment that choose options. -/
structure Environment where
  strictLabels : Option Text
  legacySizing : Option Text
  encodingName : Option Text
deriving DecidableEq, Repr

namespace Environment

def strictLabelsName : Text := "SLEDE8_STRICT_LABELS".toList

def legacySizingName : Text := "SLEDE8_LEGACY_DATA_SIZING".toList

def encodingNameName : Text := "SLEDE8_TEXT_ENCODING".toList

def ofLookup (find : Text → Option Text) : Environment where
  strictLabels := find strictLabelsName
  legacySizing := find legacySizingName
  encodingName := find encodingNameName

/-- A yes or no in one of four spellings each, in any case and with blanks
around it. Anything else chooses nothing. -/
def flag? (value : Text) : Option Bool :=
  let word := Text.lowerAscii (Text.trim value)
  if ["1", "true", "yes", "on"].any (·.toList == word) then some true
  else if ["0", "false", "no", "off"].any (·.toList == word) then some false
  else none

/-- The text encoding that the environment chooses. One that does not pass is ignored. -/
def encoding? (codecs : Codecs) (e : Environment) : Except Failure (Option Text) :=
  match e.encodingName with
  | none | some [] => .ok none
  | some name => do
    let usable ← (codecs.namesOneByte name).mapError .encoding
    .ok (if usable then some name else none)

/-- The standard options with the choices of the environment. -/
def settings (codecs : Codecs) (e : Environment) : Except Failure (Settings codecs) := do
  let overrides : Overrides := {
    strictLabels := e.strictLabels.bind flag?
    legacySizing := e.legacySizing.bind flag?
    encodingName := ← e.encoding? codecs
    unknown := [] }
  overrides.settings codecs .standard

end Environment

end SledeCode
