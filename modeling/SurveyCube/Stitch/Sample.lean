import SurveyCube.Bytes
import SurveyCube.Fault

/-!
# Samples

The cells of a fragment file are single precision numbers of four bytes.  The
stitcher copies them bit by bit, so a sample keeps the bits and never asks what
number they denote.  A sample is written as its place in the cube, eight bytes,
and the cell, four bytes, least significant byte first.
-/

namespace SurveyCube

structure Sample where
  offset : Nat
  bits : UInt32
  deriving DecidableEq, Repr

namespace Sample

def cellSize : Nat := 4

def readCell (file : Array UInt8) (cell : Nat) : Except Fault UInt32 :=
  let start := cell * cellSize
  if start + cellSize ≤ file.size then
    .ok (UInt32.ofNat (Bytes.ofLittleEndian (file.extract start (start + cellSize)).toList))
  else
    .error (.cellPastEnd cell file.size)

def encode (sample : Sample) : Bytes :=
  Bytes.littleEndian 8 sample.offset ++ Bytes.littleEndian 4 sample.bits.toNat

theorem length_encode (sample : Sample) : sample.encode.length = 12 := by
  simp [encode]

end Sample

end SurveyCube
