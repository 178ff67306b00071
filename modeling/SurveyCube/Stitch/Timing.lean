import SurveyCube.Text.Utf8
import SurveyCube.Timestamp
import SurveyCube.Triple

/-!
# Timing reports

A stitch run may report how long its phases took.  Durations are kept in
nanoseconds and shown in whole milliseconds.
-/

namespace SurveyCube

structure Timing where
  /-- The shape of the fragments. -/
  fragment : Shape
  parse : Nat
  bin : Nat
  read : Nat
  total : Nat
  finished : Timestamp
  deriving DecidableEq, Repr

namespace Timing

/-- The whole milliseconds of a duration. -/
def millis (nanos : Nat) : Nat :=
  nanos / 1000000

def lines (timing : Timing) : List String := [
  timing.finished.text,
  s!"Fragment size: x: {timing.fragment.x}, y: {timing.fragment.y}, z: {timing.fragment.z}",
  s!"Parsing surface: {millis timing.parse}ms",
  s!"Binning surface: {millis timing.bin}ms",
  s!"Reading surface: {millis timing.read}ms",
  s!"Total elapsed time: {millis timing.total}ms",
  ""]

/-- A report, with an empty line at its end. -/
def report (timing : Timing) : String :=
  String.join (timing.lines.map fun line => line ++ "\n")

end Timing

end SurveyCube
