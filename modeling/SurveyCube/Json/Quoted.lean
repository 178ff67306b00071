import SurveyCube.Text.Utf8

/-!
# Quoted text in documents

Text stands between quotation marks.  A quotation mark, a backslash and the
control characters are written with a backslash; all else stands for itself,
byte by byte.

Reading has two stages.  `pieces?` splits the quoted form into bytes that stand
for themselves and UTF-16 units written as `\u` with four hexadecimal digits;
it fails for text that is not well formed.  `decode?` joins surrogate pairs and
checks that the bytes are UTF-8; it fails for well-formed text that denotes
nothing.
-/

namespace SurveyCube.Json

inductive Piece where
  | byte (value : UInt8)
  | unit (value : Nat)
  deriving DecidableEq, Repr

def hexValue? (byte : UInt8) : Option Nat :=
  if 48 ≤ byte && byte ≤ 57 then some (byte.toNat - 48)
  else if 97 ≤ byte && byte ≤ 102 then some (byte.toNat - 87)
  else if 65 ≤ byte && byte ≤ 70 then some (byte.toNat - 55)
  else none

/-- The unit written by four hexadecimal digits. -/
def unit? (a b c d : UInt8) : Option Nat := do
  return (((← hexValue? a) * 16 + (← hexValue? b)) * 16 + (← hexValue? c)) * 16 + (← hexValue? d)

def escaped? : UInt8 → Option UInt8
  | 34 => some 34
  | 92 => some 92
  | 47 => some 47
  | 98 => some 8
  | 102 => some 12
  | 110 => some 10
  | 114 => some 13
  | 116 => some 9
  | _ => none

/-- The pieces up to the closing quotation mark, and what follows it. -/
def pieces? : Bytes → Option (List Piece × Bytes)
  | [] => none
  | 34 :: rest => some ([], rest)
  | 92 :: 117 :: a :: b :: c :: d :: rest => do
      let value ← unit? a b c d
      let (later, rest) ← pieces? rest
      return (.unit value :: later, rest)
  | 92 :: letter :: rest => do
      let value ← escaped? letter
      let (later, rest) ← pieces? rest
      return (.byte value :: later, rest)
  | value :: rest =>
      if value < 32 ∨ value = 92 then none else do
        let (later, rest) ← pieces? rest
        return (.byte value :: later, rest)

def characterBytes (codePoint : Nat) : Bytes :=
  String.utf8EncodeChar (Char.ofNat codePoint)

/-- The unit is the first half of a surrogate pair. -/
def isLeading (unit : Nat) : Bool :=
  0xd800 ≤ unit && unit < 0xdc00

/-- The unit is the second half of a surrogate pair. -/
def isTrailing (unit : Nat) : Bool :=
  0xdc00 ≤ unit && unit < 0xe000

/-- The bytes that pieces stand for.  Half a surrogate pair stands for none. -/
def pieceBytes? : List Piece → Option Bytes
  | [] => some []
  | .byte value :: rest => (pieceBytes? rest).map (value :: ·)
  | .unit high :: .unit low :: rest =>
      if isLeading high then
        if isTrailing low then
          (pieceBytes? rest).map
            (characterBytes (0x10000 + (high - 0xd800) * 0x400 + (low - 0xdc00)) ++ ·)
        else
          none
      else if isTrailing high then
        none
      else
        (pieceBytes? (.unit low :: rest)).map (characterBytes high ++ ·)
  | .unit value :: rest =>
      if isLeading value || isTrailing value then none
      else (pieceBytes? rest).map (characterBytes value ++ ·)

def decode? (pieces : List Piece) : Option String :=
  (pieceBytes? pieces).bind Text.ofBytes?

def hexDigit (value : Nat) : UInt8 :=
  UInt8.ofNat (if value < 10 then 48 + value else 87 + value)

def escape (byte : UInt8) : Bytes :=
  if byte = 34 then [92, 34]
  else if byte = 92 then [92, 92]
  else if byte = 8 then [92, 98]
  else if byte = 9 then [92, 116]
  else if byte = 10 then [92, 110]
  else if byte = 12 then [92, 102]
  else if byte = 13 then [92, 114]
  else if byte < 32 then
    [92, 117, 48, 48, hexDigit (byte.toNat / 16), hexDigit (byte.toNat % 16)]
  else [byte]

def quote (text : String) : Bytes :=
  34 :: (Text.bytes text).flatMap escape ++ [34]

end SurveyCube.Json
