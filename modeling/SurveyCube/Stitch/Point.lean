import SurveyCube.Datum.Serial
import SurveyCube.Fault

/-!
# Points in a stream

A point takes twelve bytes: its three coordinates as signed words of four
bytes, least significant byte first.  No coordinate may be negative.

`readPoints` and `pointBytes` are inverse to each other on points whose
coordinates fit a signed word.
-/

namespace SurveyCube.Stitch

def pointSize : Nat := 12

/-- The coordinate that four bytes denote. -/
def coordinate (word : Bytes) : Except Fault Nat :=
  match Bytes.signed 4 (Bytes.ofLittleEndian word) with
  | .ofNat n => .ok n
  | .negSucc n => .error (.negativeCoordinate (.negSucc n))

def point (bytes : Bytes) : Except Fault CubePoint := do
  let x ← coordinate (bytes.take 4)
  let y ← coordinate ((bytes.drop 4).take 4)
  let z ← coordinate ((bytes.drop 8).take 4)
  return ⟨x, y, z⟩

def points : Nat → Bytes → Except Fault (List CubePoint)
  | 0, _ => .ok []
  | count + 1, bytes => do
      let first ← point (bytes.take pointSize)
      let rest ← points count (bytes.drop pointSize)
      return first :: rest

/-- So many points at the start of a byte string. -/
def readPoints (bytes : Bytes) (count : Nat) : Except Fault (List CubePoint) :=
  if wordLimit ≤ count * pointSize then
    .error (.tooManyPoints count)
  else if bytes.length < count * pointSize then
    .error (.shortPoints (count * pointSize) bytes.length)
  else
    points count bytes

def pointBytes (points : List CubePoint) : Bytes :=
  points.flatMap fun p => p.toList.flatMap (Bytes.littleEndian 4)

end SurveyCube.Stitch
