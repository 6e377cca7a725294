import SledeCode.Text.Numeral

namespace SledeCode.Utf8

/-- Why a sequence of bytes is no character. -/
inductive Reason where
  /-- No character starts with this byte. -/
  | badStart
  /-- A byte inside a character is not one that may stand there. -/
  | badContinuation
  /-- The input ends inside a character. -/
  | truncated
deriving DecidableEq, Repr

/-- The first malformed place: its position, its first byte, and how many bytes it takes. -/
structure Fault where
  position : Nat
  first : UInt8
  count : Nat
  reason : Reason
deriving DecidableEq, Repr

def Reason.message : Reason → Text
  | .badStart => "invalid start byte".toList
  | .badContinuation => "invalid continuation byte".toList
  | .truncated => "unexpected end of data".toList

def Fault.message (f : Fault) : Text :=
  let place :=
    if f.count = 1 then
      "byte 0x".toList ++ Text.zeroPad 2 (Text.hexLower f.first.toNat) ++ " in position ".toList ++
        Text.decimal f.position
    else
      "bytes in position ".toList ++ Text.decimal f.position ++ "-".toList ++
        Text.decimal (f.position + f.count - 1)
  "'utf-8' codec can't decode ".toList ++ place ++ ": ".toList ++ f.reason.message

def continues (b : UInt8) : Bool := 0x80 ≤ b && b ≤ 0xBF

/-- The second byte of a character. After some first bytes fewer values are
allowed, which rules out overlong forms, surrogates and code points past the last. -/
def continuesAfter (first b : UInt8) : Bool :=
  if first = 0xE0 then 0xA0 ≤ b && b ≤ 0xBF
  else if first = 0xED then 0x80 ≤ b && b ≤ 0x9F
  else if first = 0xF0 then 0x90 ≤ b && b ≤ 0xBF
  else if first = 0xF4 then 0x80 ≤ b && b ≤ 0x8F
  else continues b

/-- The character made of the payload of its first byte and six bits of each further one. -/
def assembled (payload : Nat) (rest : Bytes) : Char :=
  Char.ofNat (rest.foldl (fun n b => 64 * n + (b.toNat - 0x80)) payload)

/-- Reads bytes that stand `position` bytes into the input. -/
def decodeFrom (position : Nat) : Bytes → Except Fault Text
  | [] => .ok []
  | b0 :: rest =>
    if b0 < 0x80 then
      (assembled b0.toNat [] :: ·) <$> decodeFrom (position + 1) rest
    else if b0 < 0xC2 || 0xF4 < b0 then .error ⟨position, b0, 1, .badStart⟩
    else match rest with
      | [] => .error ⟨position, b0, 1, .truncated⟩
      | b1 :: rest =>
        if !continuesAfter b0 b1 then .error ⟨position, b0, 1, .badContinuation⟩
        else if b0 < 0xE0 then
          (assembled (b0.toNat - 0xC0) [b1] :: ·) <$> decodeFrom (position + 2) rest
        else match rest with
          | [] => .error ⟨position, b0, 2, .truncated⟩
          | b2 :: rest =>
            if !continues b2 then .error ⟨position, b0, 2, .badContinuation⟩
            else if b0 < 0xF0 then
              (assembled (b0.toNat - 0xE0) [b1, b2] :: ·) <$> decodeFrom (position + 3) rest
            else match rest with
              | [] => .error ⟨position, b0, 3, .truncated⟩
              | b3 :: rest =>
                if !continues b3 then .error ⟨position, b0, 3, .badContinuation⟩
                else
                  (assembled (b0.toNat - 0xF0) [b1, b2, b3] :: ·) <$>
                    decodeFrom (position + 4) rest

/-- Strict reading: the first malformed place is a fault. -/
def decode (bs : Bytes) : Except Fault Text := decodeFrom 0 bs

def encodeChar (c : Char) : Bytes :=
  let n := c.toNat
  let tail (shift : Nat) : UInt8 := UInt8.ofNat (0x80 + n / shift % 64)
  if n < 0x80 then [UInt8.ofNat n]
  else if n < 0x800 then [UInt8.ofNat (0xC0 + n / 64), tail 1]
  else if n < 0x10000 then [UInt8.ofNat (0xE0 + n / 4096), tail 64, tail 1]
  else [UInt8.ofNat (0xF0 + n / 262144), tail 4096, tail 64, tail 1]

def encode (t : Text) : Bytes := t.flatMap encodeChar

/-- Turns each carriage return, with the line feed behind it if there is one,
into one line feed. -/
def normalNewlines : Text → Text
  | [] => []
  | '\r' :: '\n' :: rest => '\n' :: normalNewlines rest
  | '\r' :: rest => '\n' :: normalNewlines rest
  | c :: rest => c :: normalNewlines rest

/-- The text of a file. A byte order mark stays as a character. -/
def readFile (bs : Bytes) : Except Fault Text := normalNewlines <$> decode bs

end SledeCode.Utf8
