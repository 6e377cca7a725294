import SledeCode.Charset.Chinese
import SledeCode.Charset.Japanese

namespace SledeCode

/-- An East Asian character set that spends one byte on ASCII and more on most
of its other characters. -/
inductive RowSet where
  | shiftJis
  | gb2312
  | gbk
  | big5
  | eucJp
  | gb18030
deriving DecidableEq, Repr

/-- The bytes of a character, if the set has it. -/
def RowSet.encodeChar? : RowSet → Char → Option Bytes
  | .shiftJis, c => Japanese.shiftJis? c
  | .gb2312, c => Chinese.gb2312? c
  | .gbk, c => Chinese.gbk? c
  | .big5, c => Chinese.big5? c
  | .eucJp, c => Japanese.eucJp? c
  | .gb18030, c => some (Chinese.gb18030 c)

end SledeCode
