import SurveyCube.Binary64.Basic
import SurveyCube.Text.Utf8

/-!
# Data

`Datum` is what a document or a packed message says before anyone asks what it
means.  Both formats are read into it and written from it.

* A record keeps its fields in order, repetitions included; who reads a record
  decides what a repetition means.
* Only packed messages carry raw bytes, tables and foreign values.  A table is
  a record in which something else than a text stands for some of the names.
* `unreadable` stands for a part of a document that is well formed but denotes
  nothing, such as a numeral beyond the doubles or a string with half a
  surrogate pair.  It does no harm in a field that nobody reads.
* `Datum.canonical` sorts the fields of every record by their names and keeps
  the last of equal names.
* `Datum.spelled` makes records of tables, where it can.
* `Datum.held` is what is left of a datum of a message that was put aside before
  it was read.
-/

namespace SurveyCube

/-- What stands for a name in a packed message. -/
inductive Label where
  | text (name : String)
  /-- Bytes, which may be those of a name. -/
  | bytes (raw : Bytes)
  /-- The position of a name, in a word of so many bytes. -/
  | word (width : Nat) (position : Nat)
  /-- Some other number, a truth value or null. -/
  | scalar
  /-- A list, a record or a foreign value. -/
  | compound
  deriving DecidableEq, Repr

/-- What a document or a packed message says. -/
inductive Datum where
  | null
  | bool (value : Bool)
  | int (value : Int)
  | real (value : Binary64)
  | text (value : String)
  | bytes (value : Bytes)
  | list (items : List Datum)
  | record (fields : List (String × Datum))
  | table (entries : List (Label × Datum))
  /-- A value that no field can hold. -/
  | foreign
  | unreadable
  deriving Repr, Inhabited

namespace Label

def name? : Label → Option String
  | .text name => some name
  | .bytes raw => Text.ofBytes? raw
  | _ => none

/-- When a message is put aside, only positions in words of this width stay
positions. -/
def isHeldWidth (width : Nat) : Bool :=
  width = 1 || width = 8

/-- What is left of a label that was put aside. -/
def held : Label → Label
  | .word width position => if isHeldWidth width then .word width position else .scalar
  | label => label

end Label

namespace Datum

mutual

/-- Nothing unreadable lies anywhere inside. -/
def readable : Datum → Bool
  | .unreadable => false
  | .list items => readableItems items
  | .record fields => readableFields fields
  | .table entries => readableEntries entries
  | _ => true

def readableItems : List Datum → Bool
  | [] => true
  | item :: rest => readable item && readableItems rest

def readableFields : List (String × Datum) → Bool
  | [] => true
  | (_, value) :: rest => readable value && readableFields rest

def readableEntries : List (Label × Datum) → Bool
  | [] => true
  | (_, value) :: rest => readable value && readableEntries rest

end

/-- Insert a field into fields sorted by name, unless the name is there. -/
def insertField (name : String) (value : Datum) :
    List (String × Datum) → List (String × Datum)
  | [] => [(name, value)]
  | (other, held) :: rest =>
      if name = other then
        (other, held) :: rest
      else if Text.precedes name other then
        (name, value) :: (other, held) :: rest
      else
        (other, held) :: insertField name value rest

mutual

/-- The same datum with the fields of every record sorted by name; of fields
with equal names the last one stays.  Packed messages may hold doubles that
are no numbers; they become null. -/
def canonical : Datum → Datum
  | .list items => .list (canonicalItems items)
  | .record fields => .record (canonicalFields fields)
  | .real value => if value.isFinite then .real value else .null
  | other => other

def canonicalItems : List Datum → List Datum
  | [] => []
  | item :: rest => canonical item :: canonicalItems rest

def canonicalFields : List (String × Datum) → List (String × Datum)
  | [] => []
  | (name, value) :: rest => insertField name (canonical value) (canonicalFields rest)

end

/-- The record that a table is.  Its first name has to be a text, for that is
how one sees that it is a record; raw bytes may spell the others.  Any other
table stays what it is. -/
def recordOfTable (entries : List (Label × Datum)) : Datum :=
  match entries with
  | (.text name, value) :: rest =>
      match rest.mapM fun (label, value) => label.name?.map fun name => (name, value) with
      | some fields => .record ((name, value) :: fields)
      | none => .table entries
  | _ => .table entries

mutual

/-- The same datum with records in place of the tables whose names are all
spelled out. -/
def spelled : Datum → Datum
  | .list items => .list (spelledItems items)
  | .record fields => .record (spelledFields fields)
  | .table entries => recordOfTable (spelledEntries entries)
  | other => other

def spelledItems : List Datum → List Datum
  | [] => []
  | item :: rest => spelled item :: spelledItems rest

def spelledFields : List (String × Datum) → List (String × Datum)
  | [] => []
  | (name, value) :: rest => (name, spelled value) :: spelledFields rest

def spelledEntries : List (Label × Datum) → List (Label × Datum)
  | [] => []
  | (label, value) :: rest => (label, spelled value) :: spelledEntries rest

end

mutual

/-- All of the datum could stand in a document. -/
def isDocument : Datum → Bool
  | .bytes _ | .table _ | .foreign | .unreadable => false
  | .list items => isDocumentItems items
  | .record fields => isDocumentFields fields
  | _ => true

def isDocumentItems : List Datum → Bool
  | [] => true
  | item :: rest => isDocument item && isDocumentItems rest

def isDocumentFields : List (String × Datum) → Bool
  | [] => true
  | (_, value) :: rest => isDocument value && isDocumentFields rest

end

mutual

/-- What is left of a datum that was put aside.  Raw bytes are no longer a list
of numbers, only a text if they are well-formed. -/
def held : Datum → Datum
  | .bytes raw =>
      match Text.ofBytes? raw with
      | some decoded => .text decoded
      | none => .foreign
  | .list items => .list (heldItems items)
  | .record fields => .record (heldFields fields)
  | .table entries => .table (heldEntries entries)
  | other => other

def heldItems : List Datum → List Datum
  | [] => []
  | item :: rest => held item :: heldItems rest

def heldFields : List (String × Datum) → List (String × Datum)
  | [] => []
  | (name, value) :: rest => (name, held value) :: heldFields rest

def heldEntries : List (Label × Datum) → List (Label × Datum)
  | [] => []
  | (label, value) :: rest => (label.held, held value) :: heldEntries rest

end

mutual

/-- Nothing is lost of a datum of a document. -/
theorem held_eq_self : (datum : Datum) → datum.isDocument = true → datum.held = datum
  | .null, _ | .bool _, _ | .int _, _ | .real _, _ | .text _, _ => by simp [held]
  | .list items, plain => by
      simp only [isDocument] at plain
      simp only [held, heldItems_eq_self items plain]
  | .record fields, plain => by
      simp only [isDocument] at plain
      simp only [held, heldFields_eq_self fields plain]
  | .bytes _, plain | .table _, plain | .foreign, plain | .unreadable, plain => by
      simp [isDocument] at plain

theorem heldItems_eq_self :
    (items : List Datum) → isDocumentItems items = true → heldItems items = items
  | [], _ => rfl
  | item :: rest, plain => by
      simp only [isDocumentItems, Bool.and_eq_true] at plain
      simp only [heldItems, held_eq_self item plain.1, heldItems_eq_self rest plain.2]

theorem heldFields_eq_self :
    (fields : List (String × Datum)) → isDocumentFields fields = true →
      heldFields fields = fields
  | [], _ => rfl
  | (name, value) :: rest, plain => by
      simp only [isDocumentFields, Bool.and_eq_true] at plain
      simp only [heldFields, held_eq_self value plain.1, heldFields_eq_self rest plain.2]

end

/-- The value of a field of a record, the first if there are several. -/
def get? (datum : Datum) (name : String) : Option Datum :=
  match datum with
  | .record fields => fields.lookup name
  | _ => none

end Datum

end SurveyCube
