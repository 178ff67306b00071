import SurveyCube.Datum.Serial
import SurveyCube.Fault
import SurveyCube.Json.Reader
import SurveyCube.Json.Writer
import SurveyCube.Msgpack.Reader
import SurveyCube.Msgpack.Writer

/-!
# Documents and messages of values

A document holds one value and nothing else; a message stands at the start of a
byte string, and whatever follows it is left for the next reader.
-/

namespace SurveyCube

def readDocument (α : Type) [Serial α] (document : Bytes) : Except Fault α :=
  match (Json.document? document).bind ofDatum? with
  | some value => .ok value
  | none => .error .unreadableDocument

def writeDocument {α : Type} [Serial α] (value : α) : Bytes :=
  Json.compact (toDatum value)

/-- The value of the message at the start of a byte string, and what follows
it, if there is one. -/
def message? (α : Type) [Serial α] (bytes : Bytes) : Option (α × Bytes) := do
  let (datum, rest) ← Msgpack.read? bytes
  return (← ofDatum? datum, rest)

/-- The value of the position at the start of a byte string, and what follows
it, if positions stand for values. -/
def positioned? (α : Type) [Serial α] (bytes : Bytes) : Option (α × Bytes) := do
  let (position, rest) ← Msgpack.position? bytes
  return (← ofPosition? position, rest)

/-- The value of the message at the start of a byte string, and what follows
the message. -/
def readMessage (α : Type) [Serial α] (bytes : Bytes) : Except Fault (α × Bytes) :=
  match message? α bytes, positioned? α bytes with
  | some found, _ | none, some found => .ok found
  | none, none => .error .unreadableMessage

def writeMessage {α : Type} [Serial α] (value : α) : Bytes :=
  Msgpack.pack (toDatum value)

end SurveyCube
