import SurveyCube.Document
import SurveyCube.Tiling

/-!
# Survey manifests

The manifest of a survey says where its volumes are stored, how they are
divided into fragments, and which line numbers label the axes.  A volume may be
stored in fragments of several shapes; queries use the first.

Attributes such as `cdpx` have one value per trace.  They are stored as volumes
with a single layer in depth and are divided independently of the data.

`Manifest.validate` checks what planning relies on.
-/

namespace SurveyCube

/-- A stored volume with trace values. -/
structure VolumeDesc where
  storagePrefix : String
  fileExtension : String
  /-- The fragment shapes that the volume is stored in. -/
  shapes : List Shape
  deriving DecidableEq, Repr

structure AttributeDesc where
  /-- The name by which queries ask for the attribute. -/
  name : String
  storagePrefix : String
  fileExtension : String
  layout : String
  labels : List String
  shapes : List Shape
  deriving DecidableEq, Repr

/-- The geometry and storage layout of one survey. -/
structure Manifest where
  formatVersion : Nat
  data : List VolumeDesc
  attributes : List AttributeDesc
  /-- The line numbers along every axis. -/
  lineNumbers : List (List Int)
  /-- The names of the axes. -/
  lineLabels : List String
  deriving DecidableEq, Repr

namespace AttributeDesc

/-- The fragment shape that queries of the attribute use. -/
def shape (desc : AttributeDesc) : Except Fault Shape :=
  match desc.shapes with
  | shape :: _ => .ok shape
  | [] => .error (.attributeWithoutShapes desc.name)

end AttributeDesc

namespace Manifest

/-- The volume that queries read trace values from. -/
def dataVolume (manifest : Manifest) : Except Fault VolumeDesc :=
  match manifest.data with
  | volume :: _ => .ok volume
  | [] => .error .missingData

def fragmentShape (manifest : Manifest) : Except Fault Shape := do
  match (← manifest.dataVolume).shapes with
  | shape :: _ => .ok shape
  | [] => .error .missingShape

/-- The shape of the cube: the number of lines along each axis. -/
def cubeShape (manifest : Manifest) : Except Fault Shape :=
  match manifest.lineNumbers with
  | [inlines, crosslines, depths] => .ok ⟨inlines.length, crosslines.length, depths.length⟩
  | other => .error (.wrongDimensionCount other.length)

/-- The shape of attribute volumes, which have one layer in depth. -/
def attributeCubeShape (manifest : Manifest) : Except Fault Shape :=
  return (← manifest.cubeShape).withZ 1

/-- A tiling, or the complaint that one of its shapes is empty. -/
def tile (cube fragment : Shape) : Except Fault Tiling :=
  (Tiling.ofShapes cube fragment).mapError .emptyShape

def tiling (manifest : Manifest) : Except Fault Tiling := do
  tile (← manifest.cubeShape) (← manifest.fragmentShape)

def attributeTiling (manifest : Manifest) (desc : AttributeDesc) : Except Fault Tiling := do
  tile (← manifest.attributeCubeShape) (← desc.shape)

/-- The first attribute of a given name. -/
def attribute? (manifest : Manifest) (name : String) : Option AttributeDesc :=
  manifest.attributes.find? fun desc => desc.name = name

def dimension (manifest : Manifest) (axis : Axis) : Except Fault (List Int) :=
  match manifest.lineNumbers[axis.index]? with
  | some lines => .ok lines
  | none => .error (.missingLineNumbers axis)

def lineNumber (manifest : Manifest) (axis : Axis) (index : Nat) : Except Fault Int := do
  let lines ← manifest.dimension axis
  match lines[index]? with
  | some line => .ok line
  | none => .error (.indexOutOfRange index lines.length axis)

/-- The fragments of the data volume tile the cube. -/
def validateData (manifest : Manifest) : Except Fault Unit := do
  let cube ← manifest.cubeShape
  let fragment ← manifest.fragmentShape
  match Tiling.ofShapes cube fragment with
  | .ok _ => .ok ()
  | .error empty => .error (.emptyDataShape empty)

/-- The fragments of an attribute volume tile its layer. -/
def validateAttribute (manifest : Manifest) (desc : AttributeDesc) : Except Fault Unit := do
  let cube ← manifest.attributeCubeShape
  let fragment ← desc.shape
  match Tiling.ofShapes cube fragment with
  | .ok _ => .ok ()
  | .error empty => .error (.emptyAttributeShape desc.name empty)

/-- Check what planning relies on: the version of the format, line numbers
along three axes, and tilings of all volumes. -/
def validate (manifest : Manifest) : Except Fault Unit :=
  if manifest.formatVersion ≠ Fault.formatVersion then
    .error (.unsupportedFormatVersion (toString manifest.formatVersion))
  else if manifest.lineNumbers.length ≠ 3 then
    .error (.wrongDimensionCount manifest.lineNumbers.length)
  else if manifest.lineNumbers.any List.isEmpty then
    .error .emptyLineNumbers
  else do
    manifest.validateData
    manifest.attributes.forM manifest.validateAttribute

end Manifest

/-! ## Documents -/

instance : Serial VolumeDesc where
  toDatum volume := .record [
    ("prefix", toDatum volume.storagePrefix),
    ("file-extension", toDatum volume.fileExtension),
    ("shapes", toDatum volume.shapes)]
  ofDatum? datum := do
    let fields ← datum.fields? ["prefix", "file-extension", "shapes"]
    return {
      storagePrefix := ← fields.required "prefix"
      fileExtension := ← fields.required "file-extension"
      shapes := ← fields.required "shapes" }

instance : Serial AttributeDesc where
  toDatum desc := .record [
    ("type", toDatum desc.name),
    ("prefix", toDatum desc.storagePrefix),
    ("file-extension", toDatum desc.fileExtension),
    ("layout", toDatum desc.layout),
    ("labels", toDatum desc.labels),
    ("shapes", toDatum desc.shapes)]
  ofDatum? datum := do
    let fields ← datum.fields?
      ["type", "prefix", "file-extension", "layout", "labels", "shapes"]
    return {
      name := ← fields.required "type"
      storagePrefix := ← fields.required "prefix"
      fileExtension := ← fields.required "file-extension"
      layout := ← fields.orElse "layout" ""
      labels := ← fields.orElse "labels" []
      shapes := ← fields.required "shapes" }

instance : Serial Manifest where
  toDatum manifest := .record [
    ("format-version", toDatum manifest.formatVersion),
    ("data", toDatum manifest.data),
    ("attributes", toDatum manifest.attributes),
    ("line-numbers", toDatum manifest.lineNumbers),
    ("line-labels", toDatum manifest.lineLabels)]
  ofDatum? datum := do
    let fields ← datum.fields?
      ["format-version", "data", "attributes", "line-numbers", "line-labels"]
    return {
      formatVersion := ← fields.required "format-version"
      data := ← fields.required "data"
      attributes := ← fields.orElse "attributes" []
      lineNumbers := ← fields.required "line-numbers"
      lineLabels := ← fields.orElse "line-labels" [] }

def Manifest.ofDocument (document : Bytes) : Except Fault Manifest := do
  let manifest ← readDocument Manifest document
  manifest.validate
  return manifest

end SurveyCube
