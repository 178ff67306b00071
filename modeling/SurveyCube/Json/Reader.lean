import SurveyCube.Json.Number
import SurveyCube.Json.Quoted

/-!
# Reading documents

`Json.read?` reads the value at the start of a text and returns what follows
it; the point stream of a stitch run begins right after its record.
`Json.document?` reads a text that holds one value and nothing else but blanks.

The reader fails only for text that is not well formed.  Well-formed text that
denotes nothing becomes `Datum.unreadable`, and so does a list or a record that
is nested too deeply: it has to be well formed, but it cannot be read.
-/

namespace SurveyCube.Json

def isBlank (byte : UInt8) : Bool :=
  byte = 32 || byte = 9 || byte = 10 || byte = 13

def skipBlanks (bytes : Bytes) : Bytes :=
  bytes.dropWhile isBlank

def word? (word : String) (bytes : Bytes) : Option Bytes :=
  let expected := Text.bytes word
  if expected.isPrefixOf bytes then some (bytes.drop expected.length) else none

def textDatum (pieces : List Piece) : Datum :=
  match decode? pieces with
  | some text => .text text
  | none => .unreadable

/-- The datum of fields whose names may be unreadable. -/
def recordDatum (fields : List (Option String × Datum)) : Datum :=
  match fields.mapM fun (name, value) => name.map fun name => (name, value) with
  | some fields => .record fields
  | none => .unreadable

section Containers

variable (value? : Bytes → Option (Datum × Bytes))

/-- The items of a list after its opening bracket or a comma, given a reader of
values and a bound on their number. -/
def items? : Nat → Bytes → Option (List Datum × Bytes)
  | 0, _ => none
  | bound + 1, bytes => do
      let (item, rest) ← value? bytes
      match skipBlanks rest with
      | 44 :: rest =>
          let (later, rest) ← items? bound rest
          return (item :: later, rest)
      | 93 :: rest => return ([item], rest)
      | _ => none

/-- One field of a record.  The name is missing if it is unreadable. -/
def field? (bytes : Bytes) : Option ((Option String × Datum) × Bytes) :=
  match skipBlanks bytes with
  | 34 :: rest => do
      let (pieces, rest) ← pieces? rest
      match skipBlanks rest with
      | 58 :: rest =>
          let (value, rest) ← value? rest
          return ((decode? pieces, value), rest)
      | _ => none
  | _ => none

/-- The fields of a record after its opening brace or a comma, given a reader
of values and a bound on their number. -/
def fields? : Nat → Bytes → Option (List (Option String × Datum) × Bytes)
  | 0, _ => none
  | bound + 1, bytes => do
      let (field, rest) ← field? value? bytes
      match skipBlanks rest with
      | 44 :: rest =>
          let (later, rest) ← fields? bound rest
          return (field :: later, rest)
      | 125 :: rest => return ([field], rest)
      | _ => none

def list? (bound : Nat) (bytes : Bytes) : Option (Datum × Bytes) :=
  match skipBlanks bytes with
  | 93 :: rest => some (.list [], rest)
  | _ => (items? value? bound bytes).map fun (items, rest) => (.list items, rest)

def record? (bound : Nat) (bytes : Bytes) : Option (Datum × Bytes) :=
  match skipBlanks bytes with
  | 125 :: rest => some (.record [], rest)
  | _ => (fields? value? bound bytes).map fun (fields, rest) => (recordDatum fields, rest)

end Containers

/-- A list or a record, of which no more than so many levels can be read. -/
def limited (levels : Nat) (datum : Datum) : Datum :=
  if levels = 0 then .unreadable else datum

/-- The value at the start of a text, with so many levels that can be read.
Neither the depth of a value nor the length of a list exceeds the bound. -/
def value? : Nat → Nat → Bytes → Option (Datum × Bytes)
  | 0, _, _ => none
  | bound + 1, levels, bytes =>
      let inner := value? bound (levels - 1)
      match skipBlanks bytes with
      | 91 :: rest =>
          (list? inner bound rest).map fun (datum, rest) => (limited levels datum, rest)
      | 123 :: rest =>
          (record? inner bound rest).map fun (datum, rest) => (limited levels datum, rest)
      | 34 :: rest => (pieces? rest).map fun (pieces, rest) => (textDatum pieces, rest)
      | 110 :: rest => (word? "ull" rest).map fun rest => (.null, rest)
      | 116 :: rest => (word? "rue" rest).map fun rest => (.bool true, rest)
      | 102 :: rest => (word? "alse" rest).map fun rest => (.bool false, rest)
      | rest => (numeral? rest).map fun (numeral, rest) => (numeral.toDatum, rest)

def maxDepth : Nat := 127

def read? (bytes : Bytes) : Option (Datum × Bytes) :=
  value? (bytes.length + 1) maxDepth bytes

/-- The value that a text holds, with nothing but blanks around it. -/
def document? (bytes : Bytes) : Option Datum := do
  let (datum, rest) ← read? bytes
  if (skipBlanks rest).isEmpty then return datum else none

end SurveyCube.Json
