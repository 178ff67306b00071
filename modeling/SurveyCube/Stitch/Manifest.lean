import SurveyCube.Document
import SurveyCube.Storage.Path
import SurveyCube.Storage.Fragments

/-!
# Stitch manifests

The stitcher reads the fragments of one volume from files of a directory.  Its
manifest gives the common beginning of their names and the shapes of cube and
fragments.
-/

namespace SurveyCube

structure StitchManifest where
  /-- What the names of all fragment files begin with. -/
  basename : String
  fragment : Shape
  cube : Shape
  deriving DecidableEq, Repr

def fragmentPath (basename : String) (id : FragmentId) : String :=
  s!"{basename}-{id.hyphenated}.f32"

namespace StitchManifest

def tiling (manifest : StitchManifest) : Except Fault Tiling :=
  Manifest.tile manifest.cube manifest.fragment

end StitchManifest

instance : Serial StitchManifest where
  toDatum manifest := .record [
    ("basename", toDatum manifest.basename),
    ("fragment-xs", toDatum manifest.fragment.x),
    ("fragment-ys", toDatum manifest.fragment.y),
    ("fragment-zs", toDatum manifest.fragment.z),
    ("cube-xs", toDatum manifest.cube.x),
    ("cube-ys", toDatum manifest.cube.y),
    ("cube-zs", toDatum manifest.cube.z)]
  ofDatum? datum := do
    let fields ← datum.fields? ["basename", "fragment-xs", "fragment-ys", "fragment-zs",
      "cube-xs", "cube-ys", "cube-zs"]
    return {
      basename := ← fields.required "basename"
      fragment := {
        x := ← fields.required "fragment-xs"
        y := ← fields.required "fragment-ys"
        z := ← fields.required "fragment-zs" }
      cube := {
        x := ← fields.required "cube-xs"
        y := ← fields.required "cube-ys"
        z := ← fields.required "cube-zs" } }

end SurveyCube
