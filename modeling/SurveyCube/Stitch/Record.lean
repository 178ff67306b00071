import SurveyCube.Document
import SurveyCube.Json.Cursor

/-!
# Metadata records

The input of the stitcher begins with a record that says how many points
follow.  All its other fields pass through to the output, at every depth sorted
by name and with the last of equal names.  The size itself may be given once
only.

`PointRecord.read?` reads the record at the start of a stream.  If there is
none, `PointRecord.unread` is what the attempt leaves in the stream.
-/

namespace SurveyCube

/-- The record in front of the points. -/
structure PointRecord where
  /-- The number of points. -/
  size : Nat
  /-- All other fields, in canonical form. -/
  extra : List (String × Datum)
  deriving Repr

namespace PointRecord

def sizeField : String := "size"

/-- A field beside the size.  It has a name and, with the names inside it
spelled out, could stand in a document. -/
def extraField? (field : Option String × Datum) : Option (String × Datum) :=
  let value := field.2.spelled
  if value.isDocument then field.1.map fun name => (name, value) else none

/-- The fields beside the size, in canonical form. -/
def extraFields? (fields : List (Option String × Datum)) : Option (List (String × Datum)) :=
  ((fields.filter fun field => field.1 ≠ some sizeField).mapM extraField?).map
    Datum.canonicalFields

end PointRecord

/-- All of a record is read, except that the names have to be spelled out. -/
instance : Serial PointRecord where
  toDatum record := .record ((PointRecord.sizeField, toDatum record.size) :: record.extra)
  ofDatum? datum := do
    let fields ← datum.namedFields? Label.flatName?
    let known ← Datum.Fields.ofNamed? [PointRecord.sizeField] fields
    return {
      size := ← known.required PointRecord.sizeField
      extra := ← PointRecord.extraFields? fields }

namespace PointRecord

/-- The record at the start of a stream, and what follows its closing brace. -/
def read? (stream : Bytes) : Option (PointRecord × Bytes) := do
  let (datum, rest) ← Json.read? stream
  return (← ofDatum? datum, rest)

def isSize (bytes : Bytes) : Bool :=
  match (Json.numeral? bytes).map fun (numeral, _) => numeral.toDatum with
  | some (.int (.ofNat _)) => true
  | _ => false

/-- What follows the value of the size, or the place where it is given up. -/
def sizeEnd (bytes : Bytes) : Except Json.Cursor Bytes := do
  let start := Json.skipBlanks bytes
  if Json.startsNumeral start then
    let rest ← Json.numeralEnd start
    if isSize start then return rest else .error ⟨rest, true⟩
  else
    .error (Json.unwanted start)

/-- What follows a field of the record after its name, given whether the size
is known already. -/
def fieldEnd (bound : Nat) (known : Bool) (name : String) (bytes : Bytes) :
    Except Json.Cursor (Bool × Bytes) := do
  if name = sizeField then
    if known then .error ⟨bytes, false⟩
    return (true, ← sizeEnd (← Json.colonEnd bytes))
  else
    return (known, ← Json.valueEnd bound (Json.maxDepth - 1) (← Json.colonEnd bytes))

/-- What an attempt to read a record leaves in a stream that begins with none. -/
def unread (stream : Bytes) : Bytes :=
  match Json.skipBlanks stream with
  | 123 :: rest =>
      let bound := rest.length + 1
      match Json.recordEnd (fieldEnd bound) bound false rest with
      | .ok (_, rest) => rest
      | .error cursor => cursor.closeRecord.unread
  | rest => (Json.unwanted rest).unread

end PointRecord

end SurveyCube
