import SurveyCube.Storage.Basic
import SurveyCube.Task

/-!
# Stored fragments

A fragment is stored under a key made from its volume, which is a path, the
shape of the volume's fragments, its id and the extension of the volume's
files.

A task names only fragments that the manifest promised, so one that is missing
means that storage and manifest have come apart.
-/

namespace SurveyCube

def Triple.hyphenated (t : Triple) : String :=
  s!"{t.x}-{t.y}-{t.z}"

def fragmentKey (volume : String) (shape : Shape) (fileExtension : String) (id : FragmentId) :
    String :=
  s!"{volume}/{shape.hyphenated}/{id.hyphenated}.{fileExtension}"

namespace TaskBase

def fragmentKey (base : TaskBase) (id : FragmentId) : String :=
  SurveyCube.fragmentKey base.storagePrefix base.shape base.fileExtension id

variable {σ : Type} [Storage σ]

def fetch (base : TaskBase) (storage : σ) (id : FragmentId) : Except Fault Bytes :=
  match Storage.read storage (base.fragmentKey id) with
  | .ok content => .ok content
  | .error .missing => .error (.fragmentNotFound (base.fragmentKey id))
  | .error .unusable => .error (.io .unusable)

/-- The bytes of fragments, each with its id, in the order of the ids. -/
def fetchAll (base : TaskBase) (storage : σ) (ids : List FragmentId) :
    Except Fault (List (FragmentId × Bytes)) :=
  ids.mapM fun id => return (id, ← base.fetch storage id)

end TaskBase

end SurveyCube
