import SurveyCube.Storage.FileTree
import SurveyCube.Stitch.Run
import SurveyCube.Stitch.Timing

/-!
# Runs on a host

A host gives a run its files and its clock.  What a run does is the same on
every host: the operating system is one, and a file tree in memory with a clock
that stands still is another.
-/

namespace SurveyCube

/-- What a run asks of its surroundings. -/
structure Host (m : Type → Type) where
  /-- The content of the file at a path. -/
  read : String → m (Except FileFault Bytes)
  /-- Append to the file at a path, or make it. -/
  append : String → Bytes → m (Except FileFault Unit)
  /-- A clock that never goes back, in nanoseconds. -/
  clock : m Nat
  /-- The time of day. -/
  date : m Timestamp

/-- A file tree with a clock that stands still. -/
def FileTree.host : Host (StateM FileTree) where
  read path := return (← get).read path
  append path content := modifyGet fun tree => (tree.append path content).swap
  clock := return 0
  date := return { seconds := 0, nanos := 0 }

namespace Run

def failure (run : Run) : Option Fault :=
  run.samples.failure

def failedLate (run : Run) (fault : Fault) : Run :=
  { run with samples := { run.samples with failure := some fault } }

end Run

namespace Stitcher

variable {m : Type → Type} [Monad m]

/-- The stitcher of the manifest at a path below the input directory. -/
def load (host : Host m) (config : StitchConfig) (path : String) : m (Except Fault Stitcher) := do
  let path := manifestPath config path
  return ofFile config path (← host.read path)

/-- Bins, each with the content of its file on a host. -/
def readFiles (host : Host m) (stitcher : Stitcher) :
    Except Fault (List Bin) → m (Except Fault (List (Bin × Except FileFault Bytes)))
  | .error fault => return .error fault
  | .ok bins => do
      let bins ← bins.mapM fun bin => do
        return (bin, ← host.read (stitcher.location bin.key))
      return .ok bins

/-- Append a timing report, if the configuration asks for one.  A run that
cannot report its timing has failed. -/
def reportTiming (host : Host m) (stitcher : Stitcher) (run : Run) (timing : Timing) : m Run :=
  match stitcher.config.timingFile, run.failure with
  | some path, none => do
      match ← host.append path (Text.bytes timing.report) with
      | .ok () => return run
      | .error cause => return run.failedLate (.io cause)
  | _, _ => return run

def runOn (host : Host m) (stitcher : Stitcher) (stream : Bytes) : m Run := do
  let started ← host.clock
  let input := StitchInput.ofStream stream
  let parsed ← host.clock
  let bins := stitcher.bins input
  let binned ← host.clock
  let run := stitcher.finish input (← stitcher.readFiles host bins)
  let done ← host.clock
  stitcher.reportTiming host run {
    fragment := stitcher.manifest.fragment
    parse := parsed - started
    bin := binned - parsed
    read := done - binned
    total := done - started
    finished := ← host.date }

end Stitcher

end SurveyCube
