import SledeCode.Charset.Table.Big5
import SledeCode.Charset.Table.Gb2312

namespace SledeCode.Chinese

def ascii? (c : Char) : Option Bytes :=
  if c.toNat < 0x80 then some [UInt8.ofNat c.toNat] else none

def gb2312? (c : Char) : Option Bytes :=
  match ascii? c with
  | some bytes => some bytes
  | none => (CodeTable.gb2312.code? c).map twoBytes

def big5? (c : Char) : Option Bytes :=
  match ascii? c with
  | some bytes => some bytes
  | none => (CodeTable.big5.code? c).map twoBytes

/-- The extended set has a middle dot and a dash where the basic set has the
Japanese dot and a horizontal bar. -/
def extendedSign (c : Char) : Char :=
  if c = '\u30fb' then '\u00b7' else if c = '\u2015' then '\u2014' else c

/-- The signs of the extended set, first those that it shares with the basic set. -/
def gbkSigns : List CodeRun :=
  CodeTable.gb2312.signs.map (fun r => { r with chars := r.chars.map extendedSign }) ++
    List.map CodeRun.ofString [
    (0xA2A1, "ⅰⅱⅲⅳⅴⅵⅶⅷⅸⅹ"),
    (0xA6E0, "︵︶︹︺︿﹀︽︾﹁﹂﹃﹄"),
    (0xA6EE, "︻︼︷︸︱"),
    (0xA6F4, "︳︴"),
    (0xA840, "ˊˋ˙–―‥‵℅℉↖↗↘↙∕∟∣≒≦≧⊿═║╒╓╔╕╖╗╘╙╚╛╜╝╞╟╠╡╢╣╤╥╦╧╨╩╪"),
    (0xA86F, "╫╬╭╮╯╰╱╲╳▁▂▃▄▅▆▇"),
    (0xA880, "█▉▊▋▌▍▎▏▓▔▕▼▽◢◣◤◥☉⊕〒〝〞"),
    (0xA8BB, "ɑ"),
    (0xA8BD, "ńň"),
    (0xA8C0, "ɡ"),
    (0xA940, "〡〢〣〤〥〦〧〨〩㊣㎎㎏㎜㎝㎞㎡㏄㏎㏑㏒㏕︰￢￤"),
    (0xA959, "℡㈱"),
    (0xA95C, "‐"),
    (0xA960, "ー゛゜ヽヾ〆ゝゞ﹉﹊﹋﹌﹍﹎﹏﹐﹑﹒﹔﹕﹖﹗﹙﹚﹛﹜﹝﹞﹟﹠﹡"),
    (0xA980, "﹢﹣﹤﹥﹦﹨﹩﹪﹫"),
    (0xA996, "〇"),
    (0xFD9C, "\uf92c\uf979\uf995\uf9e7\uf9f1"),
    (0xFE40, "\ufa0c\ufa0d﨎﨏﨑﨓﨔\ufa18﨟\ufa20﨡﨣﨤﨧﨨﨩")]

/-- One past the last ideograph of the extended set. -/
def ideographEnd : Nat := 0x9FA6

/-- How many ideographs of the basic set come before a code point. -/
def basicIdeographsBelow (n : Nat) : Nat :=
  total (CodeTable.gb2312.ideographs.map fun r => r.chars.countP (·.toNat < n))

/-- A byte pair by the place of the second byte, which is never 7F. -/
def pairAt (lead place : Nat) : Bytes :=
  [UInt8.ofNat lead, UInt8.ofNat (place + if place < 63 then 0x40 else 0x41)]

/-- The ideographs that the basic set lacks fill the cells it leaves free, in the
order of their code points: first whole rows of 190 cells, then the 96 cells
before each row of the basic set from `AA` on. -/
def addedIdeograph (c : Char) : Bytes :=
  let index := c.toNat - CodeTable.firstIdeograph - basicIdeographsBelow c.toNat
  if index < 32 * 190 then pairAt (0x81 + index / 190) (index % 190)
  else
    let later := index - 32 * 190
    pairAt (0xAA + later / 96) (later % 96)

/-- The two bytes of a character of the extended set beyond ASCII. -/
def gbkPair? (c : Char) : Option Bytes :=
  match CodeRun.find? gbkSigns c with
  | some code => some (twoBytes code)
  | none =>
    if CodeTable.firstIdeograph ≤ c.toNat && c.toNat < ideographEnd then
      match CodeRun.find? CodeTable.gb2312.ideographs c with
      | some code => some (twoBytes code)
      | none => some (addedIdeograph c)
    else none

def gbk? (c : Char) : Option Bytes :=
  match ascii? c with
  | some bytes => some bytes
  | none => gbkPair? c

/-- The signs that the full set adds to those of the extended set. -/
def fullSigns : List CodeRun := List.map CodeRun.ofString [
    (0xA2E3, "€"),
    (0xA8BF, "ǹ"),
    (0xA989, "〾⿰⿱⿲⿳⿴⿵⿶⿷⿸⿹⿺⿻"),
    (0xFE50, "⺁"),
    (0xFE54, "⺄㑳㑇⺈⺋"),
    (0xFE5A, "㖞㘚㘎⺌⺗㥮㤘"),
    (0xFE62, "㧏㧟㩳㧐"),
    (0xFE68, "㭎㱮㳠⺧"),
    (0xFE6E, "⺪䁖䅟⺮䌷⺳⺶⺷"),
    (0xFE77, "䎱䎬⺻䏝䓖䙡䙌"),
    (0xFE80, "䜣䜩䝼䞍⻊䥇䥺䥽䦂䦃䦅䦆䦟䦛䦷䦶"),
    (0xFE92, "䲣䲟䲠䲡䱷䲢䴓䴔䴕䴖䴗䴘䴙䶮")]

/-- The end of the private characters whose codes go row by row. -/
def privateRowsEnd : Nat := 0xE766

/-- Private characters in the cells that are left over. -/
def privateCells : List CodeRange := [
    ⟨0xE766, 0xE76B, 0xA2AB⟩, ⟨0xE76D, 0xE76D, 0xA2E4⟩, ⟨0xE76E, 0xE76F, 0xA2EF⟩,
    ⟨0xE770, 0xE771, 0xA2FD⟩, ⟨0xE772, 0xE77C, 0xA4F4⟩, ⟨0xE77D, 0xE784, 0xA5F7⟩,
    ⟨0xE785, 0xE78C, 0xA6B9⟩, ⟨0xE78D, 0xE793, 0xA6D9⟩, ⟨0xE794, 0xE795, 0xA6EC⟩,
    ⟨0xE796, 0xE796, 0xA6F3⟩, ⟨0xE797, 0xE79F, 0xA6F6⟩, ⟨0xE7A0, 0xE7AE, 0xA7C2⟩,
    ⟨0xE7AF, 0xE7BB, 0xA7F2⟩, ⟨0xE7BC, 0xE7C6, 0xA896⟩, ⟨0xE7C7, 0xE7C7, 0xA8BC⟩,
    ⟨0xE7C9, 0xE7CC, 0xA8C1⟩, ⟨0xE7CD, 0xE7E1, 0xA8EA⟩, ⟨0xE7E2, 0xE7E2, 0xA958⟩,
    ⟨0xE7E3, 0xE7E3, 0xA95B⟩, ⟨0xE7E4, 0xE7E6, 0xA95D⟩, ⟨0xE7F4, 0xE800, 0xA997⟩,
    ⟨0xE801, 0xE80F, 0xA9F0⟩, ⟨0xE810, 0xE814, 0xD7FA⟩, ⟨0xE816, 0xE818, 0xFE51⟩,
    ⟨0xE81E, 0xE81E, 0xFE59⟩, ⟨0xE826, 0xE826, 0xFE61⟩, ⟨0xE82B, 0xE82C, 0xFE66⟩,
    ⟨0xE831, 0xE832, 0xFE6C⟩, ⟨0xE83B, 0xE83B, 0xFE76⟩, ⟨0xE843, 0xE843, 0xFE7E⟩,
    ⟨0xE854, 0xE855, 0xFE90⟩, ⟨0xE864, 0xE864, 0xFEA0⟩]

/-- The two bytes of a private character: six rows and then seven rows of 94
cells, seven rows of 96 cells, and the cells left over. -/
def privatePair? (c : Char) : Option Bytes :=
  let n := c.toNat
  let row (lead index : Nat) : Bytes := twoBytes ((lead + index / 94) * 0x100 + 0xA1 + index % 94)
  if n < 0xE000 then none
  else if n < 0xE234 then some (row 0xAA (n - 0xE000))
  else if n < 0xE4C6 then some (row 0xF8 (n - 0xE234))
  else if n < privateRowsEnd then some (pairAt (0xA1 + (n - 0xE4C6) / 96) ((n - 0xE4C6) % 96))
  else (CodeRange.find? privateCells c).map twoBytes

/-- How many of the code points from `first` up to `stop` come before `n`. -/
def below (n first stop : Nat) : Nat := min n stop - first

/-- How many characters before a code point have a code of two bytes. -/
def pairsBelow (n : Nat) : Nat :=
  total ((gbkSigns ++ fullSigns).map fun r => r.chars.countP (·.toNat < n)) +
    below n CodeTable.firstIdeograph ideographEnd + below n 0xE000 privateRowsEnd +
    total (privateCells.map fun r => below n r.first (r.last + 1))

/-- Four bytes that count in tens and in steps of 126 by turns. -/
def fourBytes (index : Nat) : Bytes :=
  [UInt8.ofNat (0x81 + index / 12600), UInt8.ofNat (0x30 + index / 1260 % 10),
    UInt8.ofNat (0x81 + index / 10 % 126), UInt8.ofNat (0x30 + index % 10)]

/-- The characters without a code of two bytes are numbered in the order of
their code points, those past the first 65536 from a number of their own. -/
def fourByteIndex (c : Char) : Nat :=
  let n := c.toNat
  if n < 0x10000 then n - 0x80 - below n 0xD800 0xE000 - pairsBelow n
  else 189000 + (n - 0x10000)

/-- The full set has every character. -/
def gb18030 (c : Char) : Bytes :=
  match ascii? c, gbkPair? c, CodeRun.find? fullSigns c, privatePair? c with
  | some bytes, _, _, _ => bytes
  | none, some bytes, _, _ => bytes
  | none, none, some code, _ => twoBytes code
  | none, none, none, some bytes => bytes
  | none, none, none, none => fourBytes (fourByteIndex c)

end SledeCode.Chinese
