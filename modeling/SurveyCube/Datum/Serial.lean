import SurveyCube.Datum.Basic
import SurveyCube.Triple

/-!
# Values as data

`Serial` says how a value is written as a datum and read from one.  Reading is
strict: a number is an integer in range, a triple has three components, and
nothing is converted.

A record of named fields may be read in two forms, see `Datum.fields?`: as a
record, in which unknown fields are ignored and known ones stand at most once,
or as the list of its fields in declared order, which may stop early.  In a
table the position of a field may stand for its name.

A record that has another one flattened into it is read as a record only, see
`Datum.flatFields?`, and its names have to be spelled out.  The fields of the
inner record are put aside and then read, see `Datum.Fields.held`.
-/

namespace SurveyCube

/-- Values that documents and packed messages carry. -/
class Serial (α : Type) where
  /-- The datum of a value. -/
  toDatum : α → Datum
  /-- The value of a datum, if it has one. -/
  ofDatum? : Datum → Option α
  /-- The value that a message may give by a position alone. -/
  ofPosition? : Nat → Option α := fun _ => none

export Serial (toDatum ofDatum? ofPosition?)

namespace Datum

def byteItems (raw : Bytes) : List Datum :=
  raw.map fun byte => .int byte.toNat

/-- The items of a datum in list form.  Raw bytes are a list of numbers. -/
def items? : Datum → Option (List Datum)
  | .list items => some items
  | .bytes raw => some (byteItems raw)
  | _ => none

/-- The items of a list of so many items.  Of raw bytes the first ones are
taken, whatever follows. -/
def tuple? (count : Nat) : Datum → Option (List Datum)
  | .list items => if items.length = count then some items else none
  | .bytes raw => if count ≤ raw.length then some (byteItems (raw.take count)) else none
  | _ => none

/-- The items of a list of at most so many items.  Of raw bytes the first ones
are taken, whatever follows. -/
def leading? (count : Nat) : Datum → Option (List Datum)
  | .list items => if items.length ≤ count then some items else none
  | .bytes raw => some (byteItems (raw.take count))
  | _ => none

def Fields := String → Option Datum

namespace Fields

/-- The fields with given names among some whose names may be unknown, none of
the given names standing twice. -/
def ofNamed? (names : List String) (fields : List (Option String × Datum)) : Option Fields :=
  if names.all fun name => (fields.filter fun field => field.1 = some name).length ≤ 1 then
    some fun name => fields.lookup (some name)
  else
    none

/-- The same fields, put aside before they are read. -/
def held (fields : Fields) : Fields :=
  fun name => (fields name).map Datum.held

end Fields

end Datum

namespace Label

/-- The name that a label gives to a field among those with given names.  The
inner option is empty for an unknown name, the outer one for no name at all. -/
def fieldName? (names : List String) : Label → Option (Option String)
  | .word _ position => some names[position]?
  | .scalar | .compound => none
  | label => some label.name?

/-- The name that a label gives to a field that has to be called by its name. -/
def flatName? : Label → Option (Option String)
  | .compound => none
  | label => some label.name?

end Label

namespace Datum

/-- The fields of a record or a table with the names that its labels give. -/
def namedFields? (nameOf? : Label → Option (Option String)) :
    Datum → Option (List (Option String × Datum))
  | .record fields => some (fields.map fun (name, value) => (some name, value))
  | .table entries =>
      entries.mapM fun (label, value) => (nameOf? label).map fun name => (name, value)
  | _ => none

/-- The fields of a record with given names, none of them given twice. -/
def flatFields? (names : List String) (datum : Datum) : Option Fields :=
  (datum.namedFields? Label.flatName?).bind (Fields.ofNamed? names)

/-- The fields of a record, or of the list of its fields in declared order. -/
def fields? (names : List String) (datum : Datum) : Option Fields :=
  match datum with
  | .list _ | .bytes _ =>
      (datum.leading? names.length).map fun items name => (names.zip items).lookup name
  | _ => (datum.namedFields? (Label.fieldName? names)).bind (Fields.ofNamed? names)

namespace Fields

variable {α : Type} [Serial α]

def required (fields : Fields) (name : String) : Option α :=
  (fields name).bind ofDatum?

/-- The value of a field, or another value if it is absent. -/
def orElse (fields : Fields) (name : String) (absent : α) : Option α :=
  match fields name with
  | none => some absent
  | some datum => ofDatum? datum

/-- The value of a field that may be absent or null. -/
def nullable (fields : Fields) (name : String) : Option (Option α) :=
  match fields name with
  | none | some .null => some none
  | some datum => (ofDatum? datum).map some

end Fields

end Datum

namespace Serial

instance : Serial Nat where
  toDatum n := .int n
  ofDatum?
    | .int (.ofNat n) => if n < wordLimit then some n else none
    | _ => none

instance : Serial Int where
  toDatum n := .int n
  ofDatum?
    | .int n => if -2 ^ 63 ≤ n ∧ n < 2 ^ 63 then some n else none
    | _ => none

/-- A text.  Raw bytes will do if they are well-formed. -/
instance : Serial String where
  toDatum text := .text text
  ofDatum?
    | .text text => some text
    | .bytes raw => Text.ofBytes? raw
    | _ => none

instance {α : Type} [Serial α] : Serial (List α) where
  toDatum items := .list (items.map toDatum)
  ofDatum? datum := datum.items?.bind fun items => items.mapM ofDatum?

/-- A value that may be missing; nothing is written as null. -/
instance {α : Type} [Serial α] : Serial (Option α) where
  toDatum
    | none => .null
    | some value => toDatum value
  ofDatum?
    | .null => some none
    | datum => (ofDatum? datum).map some

instance : Serial Triple where
  toDatum t := toDatum t.toList
  ofDatum? datum := ((datum.tuple? 3).bind fun items => items.mapM ofDatum?).bind Triple.ofList?

instance : Serial (Nat × Nat) where
  toDatum pair := toDatum [pair.1, pair.2]
  ofDatum? datum :=
    match datum.tuple? 2 with
    | some [first, second] => return (← ofDatum? first, ← ofDatum? second)
    | _ => none

/-- The axis that a label gives, by name or by position. -/
def axisOfLabel? : Label → Option Axis
  | .word _ position => Axis.ofIndex? position
  | label => label.name?.bind Axis.ofName?

/-- An axis is its name; a record with the name as its only field, and null for
its value, will do as well. -/
instance : Serial Axis where
  toDatum axis := .text axis.name
  ofDatum?
    | .text name => Axis.ofName? name
    | .bytes raw => (Text.ofBytes? raw).bind Axis.ofName?
    | .record [(name, .null)] => Axis.ofName? name
    | .table [(label, .null)] => axisOfLabel? label
    | _ => none
  ofPosition? := Axis.ofIndex?

end Serial

end SurveyCube
