import SurveyCube.Datum.Basic

/-!
# Writing packed messages

A packed message is a tag byte followed by what the tag announces.  Every
integer, text, list and record gets the shortest tag that holds it; doubles
take eight bytes.  Records are written as maps from names to values.
-/

namespace SurveyCube.Msgpack

def nat (n : Nat) : Bytes :=
  if n < 0x80 then [UInt8.ofNat n]
  else if n < 0x100 then 0xcc :: Bytes.bigEndian 1 n
  else if n < 0x10000 then 0xcd :: Bytes.bigEndian 2 n
  else if n < 0x100000000 then 0xce :: Bytes.bigEndian 4 n
  else 0xcf :: Bytes.bigEndian 8 n

def int : Int → Bytes
  | .ofNat n => nat n
  | .negSucc n =>
      let value : Int := .negSucc n
      if n < 0x20 then [UInt8.ofNat (0xff - n)]
      else if n < 0x80 then 0xd0 :: Bytes.bigEndian 1 (Bytes.unsigned 1 value)
      else if n < 0x8000 then 0xd1 :: Bytes.bigEndian 2 (Bytes.unsigned 2 value)
      else if n < 0x80000000 then 0xd2 :: Bytes.bigEndian 4 (Bytes.unsigned 4 value)
      else 0xd3 :: Bytes.bigEndian 8 (Bytes.unsigned 8 value)

def textTag (length : Nat) : Bytes :=
  if length < 0x20 then [UInt8.ofNat (0xa0 + length)]
  else if length < 0x100 then 0xd9 :: Bytes.bigEndian 1 length
  else if length < 0x10000 then 0xda :: Bytes.bigEndian 2 length
  else 0xdb :: Bytes.bigEndian 4 length

def text (value : String) : Bytes :=
  let bytes := Text.bytes value
  textTag bytes.length ++ bytes

def rawTag (length : Nat) : Bytes :=
  if length < 0x100 then 0xc4 :: Bytes.bigEndian 1 length
  else if length < 0x10000 then 0xc5 :: Bytes.bigEndian 2 length
  else 0xc6 :: Bytes.bigEndian 4 length

def listTag (length : Nat) : Bytes :=
  if length < 0x10 then [UInt8.ofNat (0x90 + length)]
  else if length < 0x10000 then 0xdc :: Bytes.bigEndian 2 length
  else 0xdd :: Bytes.bigEndian 4 length

def recordTag (length : Nat) : Bytes :=
  if length < 0x10 then [UInt8.ofNat (0x80 + length)]
  else if length < 0x10000 then 0xde :: Bytes.bigEndian 2 length
  else 0xdf :: Bytes.bigEndian 4 length

mutual

/-- The packed form of a datum.  What is never the datum of a value is written
as nil. -/
def pack : Datum → Bytes
  | .null => [0xc0]
  | .bool false => [0xc2]
  | .bool true => [0xc3]
  | .int value => int value
  | .real value => 0xcb :: Bytes.bigEndian 8 value.bits.toNat
  | .text value => text value
  | .bytes raw => rawTag raw.length ++ raw
  | .list items => listTag items.length ++ packItems items
  | .record fields => recordTag fields.length ++ packFields fields
  | .table _ | .foreign | .unreadable => [0xc0]

def packItems : List Datum → Bytes
  | [] => []
  | item :: rest => pack item ++ packItems rest

def packFields : List (String × Datum) → Bytes
  | [] => []
  | (name, value) :: rest => text name ++ (pack value ++ packFields rest)

end

end SurveyCube.Msgpack
