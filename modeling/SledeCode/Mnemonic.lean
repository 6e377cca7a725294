import SledeCode.Text.Basic

namespace SledeCode

/-- The low nibble of a word, which tells the family of its instruction. -/
inductive OperationClass where
  | halt
  | setImmediate
  | setRegister
  | locate
  | loadStore
  | alu
  | io
  | compare
  | jump
  | branch
  | call
  | ret
  | nop
deriving DecidableEq, Repr

namespace OperationClass

/-- Every class, in the order of their numbers. -/
def all : List OperationClass :=
  [.halt, .setImmediate, .setRegister, .locate, .loadStore, .alu, .io, .compare, .jump, .branch,
    .call, .ret, .nop]

def number (c : OperationClass) : Nat := c.ctorIdx

def ofNumber? (n : Nat) : Option OperationClass := all[n]?

def name : OperationClass → Text
  | .halt => "HALT".toList
  | .setImmediate => "SET_IMMEDIATE".toList
  | .setRegister => "SET_REGISTER".toList
  | .locate => "LOCATE".toList
  | .loadStore => "LOAD_STORE".toList
  | .alu => "ALU".toList
  | .io => "IO".toList
  | .compare => "COMPARE".toList
  | .jump => "JUMP".toList
  | .branch => "BRANCH".toList
  | .call => "CALL".toList
  | .ret => "RETURN".toList
  | .nop => "NOP".toList

end OperationClass

/-- Operations on two registers, in the order of their codes. -/
inductive AluOp where
  | og
  | eller
  | xeller
  | vskift
  | hskift
  | pluss
  | minus
deriving DecidableEq, Repr

/-- Comparisons of two registers, in the order of their codes. -/
inductive CompareOp where
  | lik
  | ulik
  | me
  | mel
  | se
  | sel
deriving DecidableEq, Repr

/-- Loading from and storing to the located address, in the order of their codes. -/
inductive MemoryOp where
  | last
  | lagr
deriving DecidableEq, Repr

/-- Reading input and writing output, in the order of their codes. -/
inductive StreamOp where
  | les
  | skriv
deriving DecidableEq, Repr

/-- Instructions whose only operand is an address. -/
inductive AddressOp where
  | finn
  | hopp
  | bhopp
  | tur
deriving DecidableEq, Repr

/-- Instructions without operands. -/
inductive PlainOp where
  | stopp
  | retur
  | nope
deriving DecidableEq, Repr

namespace AluOp

def all : List AluOp := [.og, .eller, .xeller, .vskift, .hskift, .pluss, .minus]

def code (op : AluOp) : Nat := op.ctorIdx

def ofCode? (n : Nat) : Option AluOp := all[n]?

def name : AluOp → Text
  | .og => "OG".toList
  | .eller => "ELLER".toList
  | .xeller => "XELLER".toList
  | .vskift => "VSKIFT".toList
  | .hskift => "HSKIFT".toList
  | .pluss => "PLUSS".toList
  | .minus => "MINUS".toList

end AluOp

namespace CompareOp

def all : List CompareOp := [.lik, .ulik, .me, .mel, .se, .sel]

def code (op : CompareOp) : Nat := op.ctorIdx

def ofCode? (n : Nat) : Option CompareOp := all[n]?

def name : CompareOp → Text
  | .lik => "LIK".toList
  | .ulik => "ULIK".toList
  | .me => "ME".toList
  | .mel => "MEL".toList
  | .se => "SE".toList
  | .sel => "SEL".toList

end CompareOp

namespace MemoryOp

def all : List MemoryOp := [.last, .lagr]

def code (op : MemoryOp) : Nat := op.ctorIdx

def ofCode? (n : Nat) : Option MemoryOp := all[n]?

def name : MemoryOp → Text
  | .last => "LAST".toList
  | .lagr => "LAGR".toList

end MemoryOp

namespace StreamOp

def all : List StreamOp := [.les, .skriv]

def code (op : StreamOp) : Nat := op.ctorIdx

def ofCode? (n : Nat) : Option StreamOp := all[n]?

def name : StreamOp → Text
  | .les => "LES".toList
  | .skriv => "SKRIV".toList

end StreamOp

namespace AddressOp

def all : List AddressOp := [.finn, .hopp, .bhopp, .tur]

def operationClass : AddressOp → OperationClass
  | .finn => .locate
  | .hopp => .jump
  | .bhopp => .branch
  | .tur => .call

def name : AddressOp → Text
  | .finn => "FINN".toList
  | .hopp => "HOPP".toList
  | .bhopp => "BHOPP".toList
  | .tur => "TUR".toList

/-- The letter of the labels that such an operand refers to: `m` for memory,
`a` for code. -/
def labelLetter : AddressOp → Char
  | .finn => 'm'
  | _ => 'a'

end AddressOp

namespace PlainOp

def all : List PlainOp := [.stopp, .retur, .nope]

def operationClass : PlainOp → OperationClass
  | .stopp => .halt
  | .retur => .ret
  | .nope => .nop

def name : PlainOp → Text
  | .stopp => "STOPP".toList
  | .retur => "RETUR".toList
  | .nope => "NOPE".toList

end PlainOp

/-- The first word of an instruction. -/
inductive Mnemonic where
  | sett
  | plain (op : PlainOp)
  | address (op : AddressOp)
  | memory (op : MemoryOp)
  | stream (op : StreamOp)
  | alu (op : AluOp)
  | compare (op : CompareOp)
deriving DecidableEq, Repr

namespace Mnemonic

def name : Mnemonic → Text
  | .sett => "SETT".toList
  | .plain op => op.name
  | .address op => op.name
  | .memory op => op.name
  | .stream op => op.name
  | .alu op => op.name
  | .compare op => op.name

def all : List Mnemonic :=
  .sett :: PlainOp.all.map .plain ++ AddressOp.all.map .address ++ MemoryOp.all.map .memory ++
    StreamOp.all.map .stream ++ AluOp.all.map .alu ++ CompareOp.all.map .compare

/-- Names are matched exactly, capitals included. -/
def ofName? (t : Text) : Option Mnemonic := all.find? fun m => m.name == t

/-- How many operands the instruction takes. -/
def arity : Mnemonic → Nat
  | .sett => 2
  | .plain _ => 0
  | .address _ => 1
  | .memory _ => 1
  | .stream _ => 1
  | .alu _ => 2
  | .compare _ => 2

end Mnemonic

/-- The word that starts a line of data. -/
def dataWord : Text := ".DATA".toList

/-- Every word that may start a statement, in code point order. -/
def knownWords : List Text := (dataWord :: Mnemonic.all.map Mnemonic.name).mergeSort Text.precedes

end SledeCode
