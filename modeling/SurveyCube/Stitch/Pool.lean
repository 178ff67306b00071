import SurveyCube.Stitch.Run

/-!
# Bins on many workers

The bins of a run are independent of each other, so workers take them up in any
order and go on side by side.  A worker opens the file of a bin and then writes
its samples one at a time.  The output is shared: it takes one whole sample
after the other, from whichever worker comes next.

A worker that meets a fault gives up its bin.  The others finish the bins that
they have begun, but bins that nobody has taken up may be left, and any of the
faults may be the one that is reported.

* A `Numbering` says which number the cell of a point has inside its fragment, and
  which number a cell of a fragment has in the cube.  `Tiling.inWords` reckons both
  in machine words, and `Tiling.unbounded` in numbers of any size.
* `Stitcher.work` is what a worker does next, and `Stitcher.Step` lets any one
  of them go on.
* `Pool.Ends` says when the work is over and which fault may be reported.
-/

namespace SurveyCube

/-- How cells are numbered. -/
structure Numbering where
  /-- The number inside its fragment of the cell of a point. -/
  cellOf : CubePoint → Nat
  /-- The number in the cube of a cell of a fragment. -/
  numberOf : Nat → FragmentId → Except Fault Nat

namespace Tiling

def unbounded (tiling : Tiling) : Numbering where
  cellOf p := Shape.offset tiling.fragment (tiling.localOf p)
  numberOf := tiling.globalOffset

/-- Numbers in machine words. -/
def inWords (tiling : Tiling) : Numbering where
  cellOf p := Shape.wordOffset tiling.fragment (tiling.localOf p)
  numberOf := tiling.wordGlobalOffset

end Tiling

namespace Numbering

def locate (numbering : Numbering) (tiling : Tiling) (p : CubePoint) (index : Nat) :
    Except Fault PlacedPoint := do
  return { root := ← tiling.fragmentOf p, offset := numbering.cellOf p, index }

def bins (numbering : Numbering) (tiling : Tiling) (points : List CubePoint) :
    Except Fault (List Bin) := do
  let placed ← points.zipIdx.mapM fun (p, index) => numbering.locate tiling p index
  return Bin.ofPlaced placed

def sample (numbering : Numbering) (file : Array UInt8) (id : FragmentId) (offset : Nat) :
    Except Fault Sample := do
  let bits ← Sample.readCell file offset
  return { offset := ← numbering.numberOf offset id, bits }

end Numbering

inductive Progress where
  /-- Nobody has taken up the bin. -/
  | waiting
  /-- The file is open, and the samples of these cells are still to be written. -/
  | reading (file : Array UInt8) (cells : List Nat)
  /-- All samples were written. -/
  | finished
  /-- A fault ended the work. -/
  | stopped (fault : Fault)
  deriving DecidableEq, Repr

structure Pool where
  workers : List (Bin × Progress)
  written : List Sample
  deriving DecidableEq, Repr

namespace Pool

def start (bins : List Bin) : Pool :=
  { workers := bins.map fun bin => (bin, .waiting), written := [] }

/-- The work is over: no bin is half done, and a fault is reported if there was
one.  Without a fault no bin is left. -/
inductive Ends (pool : Pool) : Option Fault → Prop
  | success (all : ∀ worker ∈ pool.workers, worker.2 = .finished) : Ends pool none
  | failure {fault : Fault} (idle : ∀ worker ∈ pool.workers, ∀ file cells,
      worker.2 ≠ .reading file cells)
      (stopped : ∃ worker ∈ pool.workers, worker.2 = .stopped fault) : Ends pool (some fault)

end Pool

namespace Stitcher

/-- The points of an input in bins, with their cells numbered in some way. -/
def binsBy (stitcher : Stitcher) (numbering : Numbering) (input : StitchInput) :
    Except Fault (List Bin) :=
  input.points >>= numbering.bins stitcher.tiling

/-- What a worker does next on a bin, and the samples that it writes. -/
def work (stitcher : Stitcher) (numbering : Numbering) (files : Files) (bin : Bin) :
    Progress → Option (Progress × List Sample)
  | .waiting =>
      match files (stitcher.location bin.key) with
      | .ok content => some (.reading content.toArray bin.offsets, [])
      | .error .missing => some (.stopped (.fragmentNotFound (stitcher.location bin.key)), [])
      | .error .unusable => some (.stopped (.io .unusable), [])
  | .reading _ [] => some (.finished, [])
  | .reading file (cell :: rest) =>
      match numbering.sample file bin.key cell with
      | .ok sample => some (.reading file rest, [sample])
      | .error fault => some (.stopped fault, [])
  | .finished | .stopped _ => none

/-- Some worker goes on, and the others stay where they are. -/
inductive Step (stitcher : Stitcher) (numbering : Numbering) (files : Files) :
    Pool → Pool → Prop
  | mk {bin : Bin} {progress next : Progress} {samples : List Sample}
      (worked : stitcher.work numbering files bin progress = some (next, samples))
      (before after : List (Bin × Progress)) (written : List Sample) :
      Step stitcher numbering files ⟨before ++ (bin, progress) :: after, written⟩
        ⟨before ++ (bin, next) :: after, written ++ samples⟩

end Stitcher

end SurveyCube
