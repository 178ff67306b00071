import SurveyCube.Task

/-!
# Planning slices

A slice becomes one task for the data volume and one for every requested
attribute that the manifest records, in the order of the request.  Requested
attributes that were not recorded for the survey are passed over, since it is
common to ask for more than a survey has.

Attribute volumes have a single layer in depth, so the index of a depth slice
wraps around to that layer.  Along the other axes nothing changes.
-/

namespace SurveyCube

namespace Manifest

/-- The descriptions of the named attributes that the manifest records. -/
def recorded (manifest : Manifest) (names : List String) : List AttributeDesc :=
  names.filterMap manifest.attribute?

end Manifest

namespace SliceQuery

/-- The task that extracts the plane at `index` along `axis` of one volume. -/
def taskOf (query : SliceQuery) (base : TaskBase) (tiling : Tiling) (axis : Axis) (index : Nat) :
    Except Fault SliceTask := do
  return {
    base
    dim := query.dim
    idx := Shape.planeIndex tiling.fragment axis index
    ids := ← tiling.slice axis index }

def attributeTask (query : SliceQuery) (axis : Axis) (desc : AttributeDesc) :
    Except Fault SliceTask := do
  let base ← TaskBase.ofAttribute query.base .slice desc
  let tiling ← base.tiling
  query.taskOf base tiling axis (query.idx % tiling.cube.get axis)

/-- The tasks of a slice, the data volume first. -/
def tasks (query : SliceQuery) : Except Fault (List SliceTask) := do
  let manifest := query.base.manifest
  let tiling ← manifest.tiling
  let axis ← Axis.ofIndex query.dim
  let base ← TaskBase.ofData query.base .slice
  let data ← query.taskOf base tiling axis query.idx
  let attributes ← (manifest.recorded query.base.attributes).mapM (query.attributeTask axis)
  return data :: attributes

end SliceQuery

end SurveyCube
