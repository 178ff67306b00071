import SurveyCube.Config
import SurveyCube.Stitch.Bin
import SurveyCube.Stitch.Manifest
import SurveyCube.Stitch.Point
import SurveyCube.Stitch.Record
import SurveyCube.Stitch.Sample

/-!
# Stitching

A run reads a record and points, echoes the record, and writes the sample of
every point.  It has three stages.

* `StitchInput.ofStream` reads the record and the points.
* `Stitcher.bins` sorts the points into bins.
* `Stitcher.finish` takes the files of the bins and reads the samples, bin by
  bin, until it meets a file or a cell that is missing.

`Stitcher.run` joins the three for files that are given by their paths.
-/

namespace SurveyCube

/-- The contents of files by their paths. -/
abbrev Files := String → Except FileFault Bytes

structure Stitcher where
  manifest : StitchManifest
  tiling : Tiling
  config : StitchConfig
  deriving DecidableEq, Repr

/-- Samples in the order they were written, and what stopped the writing. -/
structure Samples where
  written : List Sample
  failure : Option Fault
  deriving DecidableEq, Repr

namespace Samples

def empty : Samples :=
  { written := [], failure := none }

def failed (fault : Fault) : Samples :=
  { written := [], failure := some fault }

/-- The samples of items in turn, up to the first failure. -/
def ofItems {α : Type} (samples : α → Samples) : List α → Samples
  | [] => empty
  | item :: rest =>
      let first := samples item
      match first.failure with
      | some _ => first
      | none =>
          let later := ofItems samples rest
          { written := first.written ++ later.written, failure := later.failure }

end Samples

structure StitchInput where
  /-- The record, if it could be read. -/
  record : Option PointRecord
  points : Except Fault (List CubePoint)
  /-- What was left of the stream. -/
  unread : Bytes
  deriving Repr

/-- What a run has written, and what it has left of the input. -/
structure Run where
  echo : Option PointRecord
  samples : Samples
  unread : Bytes
  deriving Repr

namespace StitchInput

/-- The points that a record announces. -/
def surface (record : PointRecord) (bytes : Bytes) : Except Fault (List CubePoint) :=
  let expected := record.size * Stitch.pointSize
  if wordLimit ≤ expected then
    .error (.recordSizeTooLarge record.size)
  else if bytes.length < expected then
    .error (.shortRecordInput record.size expected bytes.length)
  else
    Stitch.readPoints (bytes.take expected) record.size

/-- What follows the points that a record announces.  Nothing is taken for more
points than could ever be there. -/
def afterSurface (record : PointRecord) (bytes : Bytes) : Bytes :=
  let expected := record.size * Stitch.pointSize
  if wordLimit ≤ expected then bytes else bytes.drop expected

def ofStream (stream : Bytes) : StitchInput :=
  match PointRecord.read? stream with
  | none => {
      record := none
      points := .error .unreadableDocument
      unread := PointRecord.unread stream }
  | some (record, rest) => {
      record := some record
      points := surface record rest
      unread := afterSurface record rest }

end StitchInput

namespace Run

def output (run : Run) : Bytes :=
  (run.echo.map writeDocument).getD [] ++ run.samples.written.flatMap Sample.encode

end Run

namespace Stitcher

def ofManifest (manifest : StitchManifest) (config : StitchConfig) : Except Fault Stitcher := do
  return { manifest, tiling := ← manifest.tiling, config }

def manifestPath (config : StitchConfig) (path : String) : String :=
  Path.join config.inputDir path

/-- The stitcher of a manifest that was read from a path. -/
def ofFile (config : StitchConfig) (path : String) (content : Except FileFault Bytes) :
    Except Fault Stitcher :=
  match content with
  | .ok document => do ofManifest (← readDocument StitchManifest document) config
  | .error .missing => .error (.manifestNotFound path)
  | .error .unusable => .error (.io .unusable)

def location (stitcher : Stitcher) (id : FragmentId) : String :=
  Path.join stitcher.config.inputDir (fragmentPath stitcher.manifest.basename id)

/-! ## Reading the samples -/

def sample (stitcher : Stitcher) (file : Array UInt8) (id : FragmentId) (offset : Nat) :
    Except Fault Sample := do
  let bits ← Sample.readCell file offset
  return { offset := ← stitcher.tiling.globalOffset offset id, bits }

/-- One sample, or the fault in its place. -/
def sampleOrFault (stitcher : Stitcher) (file : Array UInt8) (id : FragmentId) (offset : Nat) :
    Samples :=
  match stitcher.sample file id offset with
  | .ok sample => { written := [sample], failure := none }
  | .error fault => .failed fault

/-- The samples of a bin, given the content of its file. -/
def samplesOfBin (stitcher : Stitcher) (bin : Bin) (content : Except FileFault Bytes) :
    Samples :=
  match content with
  | .ok content =>
      let file := content.toArray
      Samples.ofItems (stitcher.sampleOrFault file bin.key) bin.offsets
  | .error .missing => .failed (.fragmentNotFound (stitcher.location bin.key))
  | .error .unusable => .failed (.io .unusable)

def samplesOfBins (stitcher : Stitcher) (bins : List (Bin × Except FileFault Bytes)) : Samples :=
  Samples.ofItems (fun (bin, content) => stitcher.samplesOfBin bin content) bins

def withFiles (stitcher : Stitcher) (files : Files) (bins : List Bin) :
    List (Bin × Except FileFault Bytes) :=
  bins.map fun bin => (bin, files (stitcher.location bin.key))

def stitch (stitcher : Stitcher) (files : Files) (bins : List Bin) : Samples :=
  stitcher.samplesOfBins (stitcher.withFiles files bins)

/-! ## Whole runs -/

def bins (stitcher : Stitcher) (input : StitchInput) : Except Fault (List Bin) :=
  input.points >>= Bin.ofPoints stitcher.tiling

/-- What is written for an input, given its bins with the contents of their
files. -/
def finish (stitcher : Stitcher) (input : StitchInput)
    (bins : Except Fault (List (Bin × Except FileFault Bytes))) : Run :=
  { echo := input.record
    samples := match bins with
      | .ok bins => stitcher.samplesOfBins bins
      | .error fault => .failed fault
    unread := input.unread }

/-- Read a record and points from a stream, and the samples of the points from
files. -/
def run (stitcher : Stitcher) (files : Files) (stream : Bytes) : Run :=
  let input := StitchInput.ofStream stream
  stitcher.finish input ((stitcher.bins input).map (stitcher.withFiles files))

end Stitcher

end SurveyCube
