import SurveyCube.Binary64.Shortest
import SurveyCube.Datum.Basic
import SurveyCube.Json.Quoted
import SurveyCube.Text.Decimal

/-!
# Writing documents

`Json.compact` writes a datum without any blanks.  `Json.indented` writes one
item or field per line, two blanks deeper than what encloses it; empty lists
and records stay on their line.  Fields keep their order.

A double that is no number is written as null, and so is what is never the
datum of a value.  Raw bytes are written as a list of numbers.
-/

namespace SurveyCube.Json

def real (value : Binary64) : Bytes :=
  if value.isFinite then Text.bytes value.text else Text.bytes "null"

/-- Numbers between brackets, separated by commas. -/
def byteList (raw : Bytes) : Bytes :=
  91 :: List.intercalate [44] (raw.map fun byte => Decimal.ofNat byte.toNat) ++ [93]

/-- The written form of a datum that is neither a list nor a record. -/
def scalar : Datum → Bytes
  | .bool true => Text.bytes "true"
  | .bool false => Text.bytes "false"
  | .int value => Decimal.ofInt value
  | .real value => real value
  | .text value => quote value
  | .bytes raw => byteList raw
  | _ => Text.bytes "null"

mutual

def compact : Datum → Bytes
  | .list items => 91 :: compactItems items
  | .record fields => 123 :: compactFields fields
  | datum => scalar datum

def compactItems : List Datum → Bytes
  | [] => [93]
  | [item] => compact item ++ [93]
  | item :: rest => compact item ++ 44 :: compactItems rest

def compactFields : List (String × Datum) → Bytes
  | [] => [125]
  | [(name, value)] => quote name ++ 58 :: compact value ++ [125]
  | (name, value) :: rest => quote name ++ 58 :: compact value ++ 44 :: compactFields rest

end

/-- A new line with the blanks of a level. -/
def newline (level : Nat) : Bytes :=
  10 :: List.replicate (2 * level) 32

mutual

def indentedAt (level : Nat) : Datum → Bytes
  | .list [] => [91, 93]
  | .record [] => [123, 125]
  | .list items => 91 :: indentedItems (level + 1) items ++ newline level ++ [93]
  | .record fields => 123 :: indentedFields (level + 1) fields ++ newline level ++ [125]
  | datum => scalar datum

def indentedItems (level : Nat) : List Datum → Bytes
  | [] => []
  | [item] => newline level ++ indentedAt level item
  | item :: rest => newline level ++ indentedAt level item ++ 44 :: indentedItems level rest

def indentedFields (level : Nat) : List (String × Datum) → Bytes
  | [] => []
  | [(name, value)] => newline level ++ quote name ++ 58 :: 32 :: indentedAt level value
  | (name, value) :: rest =>
      newline level ++ quote name ++ 58 :: 32 :: indentedAt level value ++
        44 :: indentedFields level rest

end

def indented (datum : Datum) : Bytes :=
  indentedAt 0 datum

end SurveyCube.Json
