import SledeCode.Charset.Table.CodePages
import SledeCode.Encoding.Basic

namespace SledeCode.Encoding

/-- Why text cannot be encoded under a name. -/
inductive Fault where
  | unknown (name : Text)
  /-- A transformation of bytes or letters that yields no text encoding. -/
  | notText (name : Text)
  | nullInName
  /-- The encoding of that name refuses the text. -/
  | refused (name : Text) (fault : TransferForm.Fault)
deriving DecidableEq, Repr

def Fault.message : Fault → Text
  | .unknown name => "unknown encoding: ".toList ++ name
  | .notText name =>
    Text.inQuotes name ++
      " is not a text encoding; use codecs.encode() to handle arbitrary codecs".toList
  | .nullInName => "embedded null character".toList
  | .refused name fault =>
    "encoding with ".toList ++ Text.inQuotes name ++ " codec failed (UnicodeError: ".toList ++
      fault.message ++ [')']

def isNameChar (c : Char) : Bool := c.isAlphanum || c == '.'

/-- Folds case and turns each run of other characters than letters, digits and
points into one underscore, with none at either end. -/
def foldName (name : Text) : Text :=
  let words := (name.map fun c => if isNameChar c then c.toLower else ' ').splitOn ' '
  List.intercalate ['_'] (words.filter (· ≠ []))

/-- A point in a name also stands for an underscore, but not in the standard spelling. -/
def Spellings.cover {α : Type} (e : Spellings α) (folded : Text) : Bool :=
  let pointless := folded.map fun c => if c = '.' then '_' else c
  folded == e.standard.toList ||
    e.others.any fun name => folded == name.toList || pointless == name.toList

/-- The two smallest code pages and the sets that are no code pages. -/
def charsets : List (Spellings Charset) := [
  ⟨"latin_1", ["8859", "cp819", "csisolatin1", "ibm819", "iso8859", "iso8859_1", "iso_8859_1",
    "iso_8859_1_1987", "iso_ir_100", "l1", "latin", "latin1"], .page .latin1⟩,
  ⟨"ascii", ["646", "ansi_x3.4_1968", "ansi_x3_4_1968", "ansi_x3.4_1986", "cp367", "csascii",
    "ibm367", "iso646_us", "iso_646.irv_1991", "iso_ir_6", "us", "us_ascii"], .page .ascii⟩,
  ⟨"utf_8", ["u8", "utf", "utf8", "utf8_ucs2", "utf8_ucs4", "cp65001"], .utf8 false⟩,
  ⟨"utf_8_sig", [], .utf8 true⟩,
  ⟨"utf_16", ["u16", "utf16"], .utf16 .littleEndian true⟩,
  ⟨"utf_16_le", ["unicodelittleunmarked", "utf_16le"], .utf16 .littleEndian false⟩,
  ⟨"utf_16_be", ["unicodebigunmarked", "utf_16be"], .utf16 .bigEndian false⟩,
  ⟨"utf_32", ["u32", "utf32"], .utf32 .littleEndian true⟩,
  ⟨"utf_32_le", ["utf_32le"], .utf32 .littleEndian false⟩,
  ⟨"utf_32_be", ["utf_32be"], .utf32 .bigEndian false⟩,
  ⟨"shift_jis", ["csshiftjis", "shiftjis", "sjis", "s_jis", "x_mac_japanese"], .rows .shiftJis⟩,
  ⟨"gb2312", ["chinese", "csiso58gb231280", "euc_cn", "euccn", "eucgb2312_cn", "gb2312_1980",
    "gb2312_80", "iso_ir_58", "x_mac_simp_chinese"], .rows .gb2312⟩,
  ⟨"gbk", ["936", "cp936", "ms936"], .rows .gbk⟩,
  ⟨"big5", ["big5_tw", "csbig5", "x_mac_trad_chinese"], .rows .big5⟩,
  ⟨"euc_jp", ["eucjp", "ujis", "u_jis"], .rows .eucJp⟩,
  ⟨"gb18030", ["gb18030_2000"], .rows .gb18030⟩]

def transferForms : List (Spellings TransferForm) := [
  ⟨"utf_7", ["u7", "utf7", "unicode_1_1_utf_7"], .utf7⟩,
  ⟨"unicode_escape", [], .escape⟩,
  ⟨"raw_unicode_escape", [], .rawEscape⟩,
  ⟨"punycode", [], .punycode⟩,
  ⟨"idna", [], .domainName⟩,
  ⟨"undefined", [], .undefined⟩]

/-- Transformations that are no text encodings. -/
def transformations : List (Spellings Unit) := [
  ⟨"rot_13", ["rot13"], ()⟩,
  ⟨"hex_codec", ["hex"], ()⟩,
  ⟨"base64_codec", ["base64", "base_64"], ()⟩,
  ⟨"zlib_codec", ["zip", "zlib"], ()⟩,
  ⟨"bz2_codec", ["bz2"], ()⟩,
  ⟨"uu_codec", ["uu"], ()⟩,
  ⟨"quopri_codec", ["quopri", "quoted_printable", "quotedprintable"], ()⟩]

/-- What a folded name stands for in a list. -/
def lookUp? {α : Type} (entries : List (Spellings α)) (folded : Text) : Option α :=
  (entries.find? (·.cover folded)).map (·.what)

/-- The encoding that a name stands for. -/
def find (name : Text) : Except Fault Encoding :=
  if name.contains '\x00' then .error .nullInName
  else
    let folded := foldName name
    match lookUp? charsets folded, lookUp? CodePage.named folded, lookUp? transferForms folded,
      lookUp? transformations folded with
    | some cs, _, _, _ => .ok (.charset cs)
    | none, some page, _, _ => .ok (.charset (.page page))
    | none, none, some form, _ => .ok (.transfer form)
    | none, none, none, some () => .error (.notText name)
    | none, none, none, none => .error (.unknown name)

/-- Which codec a name stands for. -/
abbrev Registry := Text → Except Fault Codec

/-- The codecs of the encodings above, under all of their names. -/
def registry : Registry := fun name => (find name).map codec

end SledeCode.Encoding
