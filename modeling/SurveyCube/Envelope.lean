import SurveyCube.Header
import SurveyCube.Partition

/-!
# Response envelopes

A response as a whole is one message: a list of two items, the header and the
list of task results.  The envelope is everything up to and including the tag
of that second list.  The packed tasks follow as they are, so a response can be
streamed as well as read in one go.
-/

namespace SurveyCube.Envelope

/-- The header with the tags around it. -/
def pack (header : ProcessHeader) : Except Fault Bytes :=
  if header.bundles ≤ maxListLength then
    .ok (Msgpack.listTag 2 ++ writeMessage header ++ Msgpack.listTag header.bundles)
  else
    .error (.tooManyBundles header.bundles)

/-- The length of the list at the start of a byte string, and what follows its
tag. -/
def listLength (bytes : Bytes) : Except Fault (Nat × Bytes) :=
  match Msgpack.listLength? bytes with
  | some found => .ok found
  | none => .error .unreadableMessage

/-- The header at the start of a response, the number of parts that it
announces, and the bytes of the parts. -/
def unpack (bytes : Bytes) : Except Fault (ProcessHeader × Nat × Bytes) := do
  let (outer, rest) ← listLength bytes
  if outer = 2 then
    let (header, rest) ← readMessage ProcessHeader rest
    let (parts, rest) ← listLength rest
    return (header, parts, rest)
  else
    .error (.envelopeLength outer)

/-- So many parts at the start of a byte string.  Reading stops at the first
bad part; otherwise the bytes after the last part are returned as well. -/
def readParts (α : Type) [Serial α] : Nat → Bytes → List α × Except Fault Bytes
  | 0, bytes => ([], .ok bytes)
  | count + 1, bytes =>
      match readMessage α bytes with
      | .ok (part, rest) =>
          let (later, outcome) := readParts α count rest
          (part :: later, outcome)
      | .error fault => ([], .error fault)

end SurveyCube.Envelope
