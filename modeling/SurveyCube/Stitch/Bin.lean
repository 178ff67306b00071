import SurveyCube.Tiling

/-!
# Bins

Points are grouped by the fragment they fall in, so that every fragment file is
opened once.  Bins ascend by fragment.  In a bin the offsets ascend, which lets
a file be read from front to back, and points at one cell keep their order.
-/

namespace SurveyCube

structure PlacedPoint where
  root : FragmentId
  /-- The number of the cell inside the fragment. -/
  offset : Nat
  /-- The position of the point in the input. -/
  index : Nat
  deriving DecidableEq, Repr

namespace PlacedPoint

/-- Points come by fragment, then by offset, then by position. -/
def notAfter (a b : PlacedPoint) : Bool :=
  decide (a.root < b.root ∨ a.root = b.root ∧
    (a.offset < b.offset ∨ a.offset = b.offset ∧ a.index ≤ b.index))

def sameRoot (a b : PlacedPoint) : Bool :=
  a.root = b.root

def locate (tiling : Tiling) (p : CubePoint) (index : Nat) : Except Fault PlacedPoint := do
  return {
    root := ← tiling.fragmentOf p
    offset := Shape.offset tiling.fragment (tiling.localOf p)
    index }

end PlacedPoint

structure Bin where
  key : FragmentId
  /-- The cells inside the fragment. -/
  offsets : List Nat
  /-- The position in the input of the point behind every offset. -/
  indices : List Nat
  deriving DecidableEq, Repr

namespace Bin

def ofRun? : List PlacedPoint → Option Bin
  | [] => none
  | first :: rest => some {
      key := first.root
      offsets := (first :: rest).map PlacedPoint.offset
      indices := (first :: rest).map PlacedPoint.index }

def size (bin : Bin) : Nat :=
  bin.offsets.length

def isEmpty (bin : Bin) : Bool :=
  bin.offsets.isEmpty

/-- The bins of placed points, ascending. -/
def ofPlaced (placed : List PlacedPoint) : List Bin :=
  ((placed.mergeSort PlacedPoint.notAfter).splitBy PlacedPoint.sameRoot).filterMap ofRun?

def ofPoints (tiling : Tiling) (points : List CubePoint) : Except Fault (List Bin) := do
  let placed ← points.zipIdx.mapM fun (p, index) => PlacedPoint.locate tiling p index
  return ofPlaced placed

end Bin

end SurveyCube
