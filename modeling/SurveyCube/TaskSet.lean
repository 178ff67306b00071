import SurveyCube.Bytes

/-!
# Sets of packed tasks

A task set holds packed tasks in order, each as a block of its own, and the
envelope that goes in front of them.  The blocks lie back to back in one
buffer; the position where each block ends is kept beside it.

`TaskSet.stream` is the complete response.  `TaskSet.parts` hands the blocks
out one by one.
-/

namespace SurveyCube

/-- Packed tasks and the envelope in front of them. -/
structure TaskSet where
  buffer : Array UInt8
  /-- The position in the buffer where each block ends. -/
  ends : Array Nat
  envelope : Option Bytes
  deriving DecidableEq, Repr

namespace TaskSet

def empty : TaskSet :=
  { buffer := #[], ends := #[], envelope := none }

def append (set : TaskSet) (block : Bytes) : TaskSet :=
  let ⟨buffer, ends, envelope⟩ := set
  let stop := buffer.size + block.length
  { buffer := buffer ++ block, ends := ends.push stop, envelope }

/-- Put an envelope in front, in place of an earlier one. -/
def setEnvelope (set : TaskSet) (envelope : Bytes) : TaskSet :=
  { set with envelope := some envelope }

def count (set : TaskSet) : Nat :=
  set.ends.size

def isEmpty (set : TaskSet) : Bool :=
  set.ends.isEmpty

/-- The bytes of the buffer between two positions. -/
def slice (set : TaskSet) (start stop : Nat) : Bytes :=
  (set.buffer.extract start stop).toList

def get? (set : TaskSet) (i : Nat) : Option Bytes :=
  set.ends[i]?.map fun stop =>
    set.slice (if i = 0 then 0 else set.ends[i - 1]?.getD 0) stop

def blocks (set : TaskSet) : List Bytes :=
  (List.range set.count).filterMap set.get?

def byteLength (set : TaskSet) : Nat :=
  set.buffer.size

/-- The envelope and the blocks back to back. -/
def stream (set : TaskSet) : Bytes :=
  set.envelope.getD [] ++ set.buffer.toList

/-- Cut the buffer at the given positions, beginning at `start`. -/
def cut (set : TaskSet) (start : Nat) : List Nat → List Bytes
  | [] => []
  | stop :: rest => set.slice start stop :: cut set stop rest

/-- The envelope and the blocks, each on its own. -/
def parts (set : TaskSet) : Option Bytes × List Bytes :=
  (set.envelope, set.cut 0 set.ends.toList)

end TaskSet

end SurveyCube
