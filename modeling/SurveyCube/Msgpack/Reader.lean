import SurveyCube.Datum.Basic

/-!
# Reading packed messages

`Msgpack.read?` reads the message at the start of a byte string and returns
what follows it, so messages can be read one by one from a stream.  Any tag
that holds a value will do, the shortest one or a longer one.  The reader fails
for bytes that end early, for the one reserved tag, and for messages that nest
too deeply.

Whatever is neither a list nor a record is read as an `Atom`, which says a
little more than a datum: as a label in front of a value, an atom may stand for
a name by spelling it or by giving its position.
-/

namespace SurveyCube.Msgpack

/-- What a tag holds that announces neither a list nor a record. -/
inductive Atom where
  /-- The bytes of a text, which need not be well-formed. -/
  | text (raw : Bytes)
  | bytes (raw : Bytes)
  /-- A number without sign in a word of so many bytes. -/
  | word (width : Nat) (value : Nat)
  /-- A negative or signed number, a double, a truth value or null. -/
  | scalar (datum : Datum)
  /-- A value of a kind that only its writer knows. -/
  | extension
  deriving Repr

namespace Atom

def toDatum : Atom → Datum
  | .text raw =>
      match Text.ofBytes? raw with
      | some decoded => .text decoded
      | none => .foreign
  | .bytes raw => .bytes raw
  | .word _ value => .int value
  | .scalar datum => datum
  | .extension => .foreign

def toLabel : Atom → Label
  | .text raw =>
      match Text.ofBytes? raw with
      | some name => .text name
      | none => .bytes raw
  | .bytes raw => .bytes raw
  | .word width value => .word width value
  | .scalar _ => .scalar
  | .extension => .compound

end Atom

def word? (width : Nat) (bytes : Bytes) : Option (Nat × Bytes) :=
  (bytes.take? width).map fun (taken, rest) => (Bytes.ofBigEndian taken, rest)

def unsigned? (width : Nat) (bytes : Bytes) : Option (Atom × Bytes) :=
  (word? width bytes).map fun (n, rest) => (.word width n, rest)

def signed? (width : Nat) (bytes : Bytes) : Option (Atom × Bytes) :=
  (word? width bytes).map fun (n, rest) => (.scalar (.int (Bytes.signed width n)), rest)

def text? (length : Nat) (bytes : Bytes) : Option (Atom × Bytes) :=
  (bytes.take? length).map fun (taken, rest) => (.text taken, rest)

def raw? (length : Nat) (bytes : Bytes) : Option (Atom × Bytes) :=
  (bytes.take? length).map fun (taken, rest) => (.bytes taken, rest)

/-- An extension value of so many bytes, before which its type takes one. -/
def extension? (length : Nat) (bytes : Bytes) : Option (Atom × Bytes) :=
  (bytes.take? (length + 1)).map fun (_, rest) => (.extension, rest)

/-- The datum of entries.  They are the fields of a record if texts stand
before all of them. -/
def entriesDatum (entries : List (Label × Datum)) : Datum :=
  match entries.mapM fun (label, value) =>
    match label with
    | .text name => some (name, value)
    | _ => none
  with
  | some fields => .record fields
  | none => .table entries

section Containers

variable (value? : Bytes → Option (Datum × Bytes))

def items? : Nat → Bytes → Option (List Datum × Bytes)
  | 0, bytes => some ([], bytes)
  | count + 1, bytes => do
      let (item, rest) ← value? bytes
      let (later, rest) ← items? count rest
      return (item :: later, rest)

/-- So many pairs of a label and a value, one after the other. -/
def entries? (label? : Bytes → Option (Label × Bytes)) :
    Nat → Bytes → Option (List (Label × Datum) × Bytes)
  | 0, bytes => some ([], bytes)
  | count + 1, bytes => do
      let (label, rest) ← label? bytes
      let (value, rest) ← value? rest
      let (later, rest) ← entries? label? count rest
      return ((label, value) :: later, rest)

def list? (count : Nat) (bytes : Bytes) : Option (Datum × Bytes) :=
  (items? value? count bytes).map fun (items, rest) => (.list items, rest)

def record? (label? : Bytes → Option (Label × Bytes)) (count : Nat) (bytes : Bytes) :
    Option (Datum × Bytes) :=
  (entries? value? label? count bytes).map fun (entries, rest) => (entriesDatum entries, rest)

end Containers

def atom? (tag : UInt8) (rest : Bytes) : Option (Atom × Bytes) :=
  if tag < 0x80 then some (.word 1 tag.toNat, rest)
  else if 0xe0 ≤ tag then some (.scalar (.int ((tag.toNat : Int) - 0x100)), rest)
  else if 0xa0 ≤ tag && tag < 0xc0 then text? (tag.toNat - 0xa0) rest
  else match tag.toNat with
    | 0xc0 => some (.scalar .null, rest)
    | 0xc2 => some (.scalar (.bool false), rest)
    | 0xc3 => some (.scalar (.bool true), rest)
    | 0xc4 => (word? 1 rest).bind fun (length, rest) => raw? length rest
    | 0xc5 => (word? 2 rest).bind fun (length, rest) => raw? length rest
    | 0xc6 => (word? 4 rest).bind fun (length, rest) => raw? length rest
    | 0xc7 => (word? 1 rest).bind fun (length, rest) => extension? length rest
    | 0xc8 => (word? 2 rest).bind fun (length, rest) => extension? length rest
    | 0xc9 => (word? 4 rest).bind fun (length, rest) => extension? length rest
    | 0xca => (word? 4 rest).map fun (bits, rest) =>
        (.scalar (.real (Binary64.ofSingle bits)), rest)
    | 0xcb => (word? 8 rest).map fun (bits, rest) =>
        (.scalar (.real ⟨UInt64.ofNat bits⟩), rest)
    | 0xcc => unsigned? 1 rest
    | 0xcd => unsigned? 2 rest
    | 0xce => unsigned? 4 rest
    | 0xcf => unsigned? 8 rest
    | 0xd0 => signed? 1 rest
    | 0xd1 => signed? 2 rest
    | 0xd2 => signed? 4 rest
    | 0xd3 => signed? 8 rest
    | 0xd4 => extension? 1 rest
    | 0xd5 => extension? 2 rest
    | 0xd6 => extension? 4 rest
    | 0xd7 => extension? 8 rest
    | 0xd8 => extension? 16 rest
    | 0xd9 => (word? 1 rest).bind fun (length, rest) => text? length rest
    | 0xda => (word? 2 rest).bind fun (length, rest) => text? length rest
    | 0xdb => (word? 4 rest).bind fun (length, rest) => text? length rest
    | _ => none

/-- The number of items that a tag at the start of a byte string announces. -/
def listLength? : Bytes → Option (Nat × Bytes)
  | [] => none
  | tag :: rest =>
      if 0x90 ≤ tag && tag < 0xa0 then some (tag.toNat - 0x90, rest)
      else if tag = 0xdc then word? 2 rest
      else if tag = 0xdd then word? 4 rest
      else none

def recordLength? : Bytes → Option (Nat × Bytes)
  | [] => none
  | tag :: rest =>
      if 0x80 ≤ tag && tag < 0x90 then some (tag.toNat - 0x80, rest)
      else if tag = 0xde then word? 2 rest
      else if tag = 0xdf then word? 4 rest
      else none

/-- The atom at the start of a byte string, nested in fewer levels than the
bound.  An extension value takes a level of its own. -/
def nestedAtom? (bound : Nat) (tag : UInt8) (rest : Bytes) : Option (Atom × Bytes) :=
  match atom? tag rest with
  | some (.extension, rest) => if bound = 0 then none else some (.extension, rest)
  | found => found

/-- What a byte string starts with, as a label in front of a value: an atom, or
a list or a record that is read by a given reader. -/
def label? (value? : Bytes → Option (Datum × Bytes)) (bound : Nat) :
    Bytes → Option (Label × Bytes)
  | [] => none
  | tag :: rest =>
      if (listLength? (tag :: rest)).isSome || (recordLength? (tag :: rest)).isSome then
        (value? (tag :: rest)).map fun (_, rest) => (.compound, rest)
      else
        (nestedAtom? bound tag rest).map fun (atom, rest) => (atom.toLabel, rest)

/-- The message at the start of a byte string, nested in fewer levels than the
bound. -/
def value? : Nat → Bytes → Option (Datum × Bytes)
  | _, [] => none
  | 0, tag :: rest => (nestedAtom? 0 tag rest).map fun (atom, rest) => (atom.toDatum, rest)
  | bound + 1, tag :: rest =>
      match listLength? (tag :: rest), recordLength? (tag :: rest) with
      | some (count, rest), _ => list? (value? bound) count rest
      | none, some (count, rest) =>
          record? (value? bound) (label? (value? bound) bound) count rest
      | none, none =>
          (nestedAtom? (bound + 1) tag rest).map fun (atom, rest) => (atom.toDatum, rest)

def maxDepth : Nat := 1023

/-- The message at the start of a byte string, and what follows it. -/
def read? (bytes : Bytes) : Option (Datum × Bytes) :=
  value? maxDepth bytes

/-- The position that a byte string starts with, and what follows it. -/
def position? : Bytes → Option (Nat × Bytes)
  | [] => none
  | tag :: rest =>
      match atom? tag rest with
      | some (.word _ position, rest) => some (position, rest)
      | _ => none

end SurveyCube.Msgpack
