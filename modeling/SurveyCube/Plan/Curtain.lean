import SurveyCube.Plan.Slice

/-!
# Planning curtains

A curtain becomes one task for the data volume and one for every requested
attribute that the manifest records.  The traces of the polyline are gathered by
the fragments they pass through, anew for every volume, since volumes are divided
independently.

A trace visits the fragments of its column from the top down.  The first visit to
a fragment makes its single, and every visit adds a place.  The singles stay in
the order of their ids.
-/

namespace SurveyCube

/-- A trace of the polyline in one volume. -/
structure Trace where
  /-- The topmost fragment of the column that the trace passes through. -/
  column : FragmentId
  /-- The position of the trace in the polyline. -/
  position : Nat
  /-- The place of the trace inside the column. -/
  place : Nat × Nat
  deriving DecidableEq, Repr

/-- A trace passes through a fragment. -/
structure Visit where
  id : FragmentId
  position : Nat
  place : Nat × Nat
  deriving DecidableEq, Repr

namespace Visit

/-- The single of a fragment that is visited for the first time. -/
def opened (visit : Visit) : Single where
  id := visit.id
  offset := visit.position
  coordinates := [visit.place]

def added (visit : Visit) (single : Single) : Single :=
  { single with coordinates := single.coordinates ++ [visit.place] }

/-- The singles after a visit. -/
def enter (visit : Visit) : List Single → List Single
  | [] => [visit.opened]
  | single :: rest =>
      if visit.id < single.id then
        visit.opened :: single :: rest
      else if visit.id = single.id then
        visit.added single :: rest
      else
        single :: visit.enter rest

end Visit

namespace Trace

def locate (tiling : Tiling) (pair : Nat × Nat) (position : Nat) : Except Fault Trace := do
  let top ← tiling.inside ⟨pair.1, pair.2, 0⟩
  let place := tiling.localOf top
  return { column := tiling.rootOf top, position, place := (place.x, place.y) }

def visits (layers : Nat) (trace : Trace) : List Visit :=
  (List.range layers).map fun z => {
    id := trace.column.withZ z
    position := trace.position
    place := trace.place }

end Trace

/-- The singles that visits leave, ascending by id. -/
def Single.gather (visits : List Visit) : List Single :=
  visits.foldl (fun singles visit => visit.enter singles) []

namespace CurtainQuery

/-- The fragments of one volume that the polyline passes through, ascending by
id. -/
def singles (query : CurtainQuery) (tiling : Tiling) : Except Fault (List Single) := do
  let pairs ← query.pairs
  let traces ← pairs.zipIdx.mapM fun (pair, position) => Trace.locate tiling pair position
  return Single.gather (traces.flatMap (Trace.visits (tiling.count .depth)))

def attributeTask (query : CurtainQuery) (desc : AttributeDesc) : Except Fault CurtainTask := do
  let base ← TaskBase.ofAttribute query.base .curtain desc
  let tiling ← base.tiling
  return { base, ids := ← query.singles tiling }

/-- The tasks of a curtain, the data volume first. -/
def tasks (query : CurtainQuery) : Except Fault (List CurtainTask) := do
  let manifest := query.base.manifest
  let tiling ← manifest.tiling
  let base ← TaskBase.ofData query.base .curtain
  let ids ← query.singles tiling
  let attributes ← (manifest.recorded query.base.attributes).mapM query.attributeTask
  return { base, ids } :: attributes

end CurtainQuery

end SurveyCube
