import SurveyCube.Query

/-!
# Tasks

A task tells a worker everything it needs to fetch fragments of one volume and
to extract values from them: where the fragments are stored, their geometry,
and the fragment ids together with what to extract from each.
-/

namespace SurveyCube

structure TaskBase where
  pid : String
  token : String
  guid : String
  storageEndpoint : String
  storagePrefix : String
  fileExtension : String
  /-- The shape of the fragments. -/
  shape : Shape
  /-- The shape of the cube that the fragments tile. -/
  cubeShape : Shape
  function : Function
  /-- The name of the volume's attribute. -/
  attributeName : String
  deriving DecidableEq, Repr

namespace TaskBase

/-- The attribute name of the trace values. -/
def dataAttribute : String := "data"

def ofData (query : QueryBase) (function : Function) : Except Fault TaskBase := do
  let volume ← query.manifest.dataVolume
  return {
    pid := query.pid
    token := query.token
    guid := query.guid
    storageEndpoint := query.storageEndpoint
    storagePrefix := volume.storagePrefix
    fileExtension := volume.fileExtension
    shape := ← query.manifest.fragmentShape
    cubeShape := ← query.manifest.cubeShape
    function
    attributeName := dataAttribute }

def ofAttribute (query : QueryBase) (function : Function) (desc : AttributeDesc) :
    Except Fault TaskBase := do
  return {
    pid := query.pid
    token := query.token
    guid := query.guid
    storageEndpoint := query.storageEndpoint
    storagePrefix := desc.storagePrefix
    fileExtension := desc.fileExtension
    shape := ← desc.shape
    cubeShape := ← query.manifest.attributeCubeShape
    function
    attributeName := desc.name }

def tiling (base : TaskBase) : Except Fault Tiling :=
  Manifest.tile base.cubeShape base.shape

end TaskBase

/-- Extract the plane at `idx`, counted inside the fragment, along `dim` from
every fragment. -/
structure SliceTask where
  base : TaskBase
  dim : Nat
  idx : Nat
  ids : List FragmentId
  deriving DecidableEq, Repr

/-- One fragment of a curtain and the traces to extract from it. -/
structure Single where
  id : FragmentId
  /-- The position of the first trace of the polyline in this column. -/
  offset : Nat
  /-- The place inside the fragment of every trace. -/
  coordinates : List (Nat × Nat)
  deriving DecidableEq, Repr

/-- Extract whole traces from every fragment. -/
structure CurtainTask where
  base : TaskBase
  ids : List Single
  deriving DecidableEq, Repr

/-! ## Documents and messages -/

instance : Serial TaskBase where
  toDatum base := .record [
    ("pid", toDatum base.pid),
    ("token", toDatum base.token),
    ("guid", toDatum base.guid),
    ("storage_endpoint", toDatum base.storageEndpoint),
    ("prefix", toDatum base.storagePrefix),
    ("ext", toDatum base.fileExtension),
    ("shape", toDatum base.shape),
    ("shape_cube", toDatum base.cubeShape),
    ("function", toDatum base.function),
    ("attribute", toDatum base.attributeName)]
  ofDatum? datum := do
    let fields ← datum.fields?
      ["pid", "token", "guid", "storage_endpoint", "prefix", "ext", "shape", "shape_cube",
        "function", "attribute"]
    return {
      pid := ← fields.required "pid"
      token := ← fields.required "token"
      guid := ← fields.required "guid"
      storageEndpoint := ← fields.required "storage_endpoint"
      storagePrefix := ← fields.required "prefix"
      fileExtension := ← fields.required "ext"
      shape := ← fields.required "shape"
      cubeShape := ← fields.required "shape_cube"
      function := ← fields.required "function"
      attributeName := ← fields.required "attribute" }

instance : Serial SliceTask where
  toDatum task := .record [
    ("base", toDatum task.base),
    ("dim", toDatum task.dim),
    ("idx", toDatum task.idx),
    ("ids", toDatum task.ids)]
  ofDatum? datum := do
    let fields ← datum.fields? ["base", "dim", "idx", "ids"]
    return {
      base := ← fields.required "base"
      dim := ← fields.required "dim"
      idx := ← fields.required "idx"
      ids := ← fields.required "ids" }

instance : Serial Single where
  toDatum single := .record [
    ("id", toDatum single.id),
    ("offset", toDatum single.offset),
    ("coordinates", toDatum single.coordinates)]
  ofDatum? datum := do
    let fields ← datum.fields? ["id", "offset", "coordinates"]
    return {
      id := ← fields.required "id"
      offset := ← fields.required "offset"
      coordinates := ← fields.required "coordinates" }

instance : Serial CurtainTask where
  toDatum task := .record [
    ("base", toDatum task.base),
    ("ids", toDatum task.ids)]
  ofDatum? datum := do
    let fields ← datum.fields? ["base", "ids"]
    return {
      base := ← fields.required "base"
      ids := ← fields.required "ids" }

end SurveyCube
