import SurveyCube.Proofs.CurtainCover
import SurveyCube.Proofs.HeaderEntries
import SurveyCube.Proofs.SliceCover

/-!
# Headers and tasks describe one output

The header gives the shapes of the outputs from line numbers and the names of
attributes; the tasks carry the geometry of the volumes.  A client allocates the
outputs by the header and fills them from the tasks, so both have to mean the
same.

A cell is counted if its point lies in the cube.  How cells are numbered plays no
part in it.

* The points that the units of a volume address are as many as the output has
  places: those of a plane for slices (`Tiling.planePoints_perm`), and for curtains
  those of every trace (`CurtainQuery.Extracts.fills`).
* `DescribesOutput` ties the header to the units of all volumes.
-/

namespace SurveyCube

/-- The units together address as many points of the cube as an output of this
shape has places. -/
def Fills {τ : Type} (points : τ → Except Fault (List CubePoint)) (units : List τ)
    (shape : List Nat) : Prop :=
  ∃ found, units.mapM points = .ok found ∧ found.flatten.length = shape.prod

namespace Tiling

/-- The points of the cube at some cells of fragments.  The others are padding. -/
def pointsAt (tiling : Tiling) (cells : List (FragmentId × LocalPoint)) : List CubePoint :=
  (cells.map fun cell => tiling.globalOf cell.1 cell.2).filter fun p => p.Within tiling.cube

theorem pointsAt_flatMap {α : Type} (tiling : Tiling) (items : List α)
    (cells : α → List (FragmentId × LocalPoint)) :
    tiling.pointsAt (items.flatMap cells) = items.flatMap fun item =>
      tiling.pointsAt (cells item) := by
  simp only [pointsAt, List.map_flatMap, List.filter_flatMap]

end Tiling

/-! ## Planes -/

namespace SliceTask

/-- The cells of a plane in some fragments. -/
def cellsIn (tiling : Tiling) (axis : Axis) (index : Nat) (id : FragmentId) :
    List (FragmentId × LocalPoint) :=
  (Shape.plane tiling.fragment axis index).map fun cell => (id, cell)

/-- The points of the cube that a task addresses. -/
def points (task : SliceTask) : Except Fault (List CubePoint) := do
  let tiling ← task.base.tiling
  let axis ← Axis.ofIndex task.dim
  if task.idx < tiling.fragment.get axis then
    return tiling.pointsAt (task.ids.flatMap (cellsIn tiling axis task.idx))
  else
    .error (.localIndexOutOfRange task.idx (tiling.fragment.get axis) axis)

end SliceTask

namespace Tiling

variable {tiling : Tiling} {axis : Axis} {index : Nat}

/-- The points of the cube at the cells of a plane are the plane, each of them once. -/
theorem planePoints_perm (inside : index < tiling.cube.get axis) :
    (tiling.pointsAt (tiling.planeCells axis index)).Perm
      (Shape.plane tiling.cube axis index) := by
  have once : ((tiling.planeCells axis index).map fun cell =>
      tiling.globalOf cell.1 cell.2).Nodup := by
    refine (planeCells_nodup tiling axis index).map_on ?_
    rintro ⟨id, cell⟩ here ⟨other, further⟩ there same
    have inFragment := ((mem_planeCells inside).mp here).2.1
    have furtherInFragment := ((mem_planeCells inside).mp there).2.1
    obtain ⟨rfl, rfl⟩ := (globalOf_eq_iff inFragment).mp same
    rw [rootOf_globalOf other furtherInFragment, localOf_globalOf other furtherInFragment]
  rw [pointsAt, List.perm_ext_iff_of_nodup (once.filter _) (Shape.plane_nodup _ axis index)]
  intro p
  rw [List.mem_filter, List.mem_map, decide_eq_true_eq, Shape.mem_plane_iff inside]
  constructor
  · rintro ⟨⟨⟨id, cell⟩, member, rfl⟩, within⟩
    exact ⟨within, ((mem_planeCells inside).mp member).2.2⟩
  · rintro ⟨within, along⟩
    refine ⟨⟨(tiling.rootOf p, tiling.localOf p), ?_, tiling.globalOf_rootOf_localOf p⟩, within⟩
    rw [mem_planeCells inside, globalOf_rootOf_localOf]
    exact ⟨rootOf_within within, localOf_within tiling p, along⟩

end Tiling

theorem SliceTask.Extracts.points_withIds
    {task : SliceTask} {name : String} {tiling : Tiling} {axis : Axis} {index : Nat}
    (extracts : task.Extracts name tiling axis index) (ids : List FragmentId) :
    SliceTask.points { task with ids } =
      .ok (tiling.pointsAt (ids.flatMap
        (cellsIn tiling axis (index % tiling.fragment.get axis)))) := by
  have place : index % tiling.fragment.get axis < tiling.fragment.get axis :=
    Nat.mod_lt _ (tiling.fragment_get_pos axis)
  have along : Axis.ofIndex task.dim = .ok axis := Axis.ofIndex_eq_ok.mpr extracts.dim
  have pinned : task.idx = index % tiling.fragment.get axis := extracts.idx
  refine bind_eq_ok.mpr ⟨tiling, extracts.reads.tiling_eq, bind_eq_ok.mpr ⟨axis, along, ?_⟩⟩
  simp only [pinned]
  exact if_pos place

/-- The units of work of a task fill the shape of the plane that they are cut from. -/
theorem SliceTask.Extracts.fills
    {task : SliceTask} {name : String} {tiling : Tiling} {axis : Axis} {index : Nat}
    (extracts : task.Extracts name tiling axis index) (taskSize : Nat) :
    Fills SliceTask.points (units taskSize task) (tiling.cube.toList.set axis.index 1) := by
  obtain ⟨inside, cut⟩ := Tiling.slice_eq_ok.mp extracts.ids
  have each : ∀ unit ∈ units taskSize task, SliceTask.points unit =
      .ok (tiling.pointsAt ((Divisible.ids unit).flatMap
        (cellsIn tiling axis (index % tiling.fragment.get axis)))) := by
    intro unit member
    obtain ⟨ids, _, rfl⟩ := mem_units.mp member
    exact extracts.points_withIds ids
  have joined : Divisible.ids task =
      Shape.plane tiling.counts axis (index / tiling.fragment.get axis) := cut.symm
  refine ⟨_, mapM_eq_ok_map each, ?_⟩
  rw [← List.flatMap_def, ← Tiling.pointsAt_flatMap, ← List.flatMap_assoc, flatMap_ids_units,
    joined]
  change (tiling.pointsAt (tiling.planeCells axis index)).length = _
  rw [(Tiling.planePoints_perm inside).length_eq, Shape.length_plane, ← Triple.toList_set,
    Triple.prod_toList]

/-! ## Polylines -/

/-- The cells that a worker reads for a single. -/
def Single.cellsOver (single : Single) (tiling : Tiling) : List (FragmentId × LocalPoint) :=
  single.coordinates.flatMap fun (x, y) =>
    (List.range tiling.fragment.z).map fun z => (single.id, ⟨x, y, z⟩)

/-- The points of the cube that a task addresses. -/
def CurtainTask.points (task : CurtainTask) : Except Fault (List CubePoint) := do
  let tiling ← task.base.tiling
  return task.ids.flatMap fun single => tiling.pointsAt (single.cellsOver tiling)

namespace CurtainQuery

variable {query : CurtainQuery} {tiling : Tiling} {singles : List Single}

/-- A place of a single is a place on a trace of the polyline. -/
theorem within_of_place (planned : query.singles tiling = .ok singles) {single : Single}
    (member : single ∈ singles) {place : Nat × Nat} (inside : place ∈ single.coordinates) :
    single.id.x * tiling.fragment.x + place.1 < tiling.cube.x ∧
      single.id.y * tiling.fragment.y + place.2 < tiling.cube.y := by
  obtain ⟨pairs, _, within, rfl⟩ := singles_eq_ok.mp planned
  obtain ⟨column, found, here⟩ := List.mem_flatMap.mp member
  obtain ⟨layer, _, rfl⟩ := Column.mem_singles.mp here
  obtain ⟨trace, traced, top, same⟩ := Column.exists_trace_of_place found inside
  obtain ⟨pair, position, listed, rfl⟩ := mem_traces.mp traced
  obtain ⟨x, y, _⟩ := within pair (List.mem_of_getElem? listed)
  have whole := tiling.globalOf_rootOf_localOf (Trace.top pair)
  rw [← whole] at x y
  rw [← top, ← same]
  exact ⟨x, y⟩

/-- A trace leaves the cube at its bottom alone. -/
theorem pointsAt_cellsOver (planned : query.singles tiling = .ok singles) {single : Single}
    (member : single ∈ singles) :
    tiling.pointsAt (single.cellsOver tiling) =
      single.points tiling.fragment tiling.cube.z := by
  rw [Single.cellsOver, Tiling.pointsAt_flatMap, Single.points]
  apply List.flatMap_congr
  rintro ⟨x, y⟩ covered
  obtain ⟨along, across⟩ := within_of_place planned member covered
  have deep (z : Nat) : (tiling.globalOf single.id ⟨x, y, z⟩).Within tiling.cube ↔
      single.id.z * tiling.fragment.z + z < tiling.cube.z :=
    ⟨fun within => within.2.2, fun below => ⟨along, across, below⟩⟩
  simp only [Tiling.pointsAt, List.map_map, List.filter_map]
  refine (List.map_congr_left fun _ _ => rfl).trans (congrArg (List.map _) ?_)
  apply List.filter_congr
  intro z _
  exact decide_eq_decide.mpr (deep z)

theorem length_tracePoints (pairs : List (Nat × Nat)) (depth : Nat) :
    (pairs.flatMap (tracePoints depth)).length = pairs.length * depth := by
  simp [tracePoints, List.length_flatMap]

theorem Extracts.fills
    {name : String} {task : CurtainTask} (extracts : query.Extracts name tiling task)
    (taskSize : Nat) :
    Fills CurtainTask.points (units taskSize task) [query.dim0s.length, tiling.cube.z] := by
  have each : ∀ unit ∈ units taskSize task, CurtainTask.points unit =
      .ok (unit.ids.flatMap fun single => tiling.pointsAt (single.cellsOver tiling)) := by
    intro unit member
    obtain ⟨ids, _, rfl⟩ := mem_units.mp member
    exact bind_eq_ok.mpr ⟨tiling, extracts.reads.tiling_eq, rfl⟩
  have ids : (units taskSize task).flatMap CurtainTask.ids = task.ids :=
    flatMap_ids_units taskSize task
  obtain ⟨_, paired, _⟩ := singles_eq_ok.mp extracts.ids
  have even := (pairs_eq_ok.mp paired).1
  have points : (task.ids.flatMap fun single => tiling.pointsAt (single.cellsOver tiling)) =
      task.ids.flatMap fun single => single.points tiling.fragment tiling.cube.z :=
    List.flatMap_congr fun single member => pointsAt_cellsOver extracts.ids member
  refine ⟨_, mapM_eq_ok_map each, ?_⟩
  rw [← List.flatMap_def, ← List.flatMap_assoc, ids, points,
    (singles_points extracts.ids).length_eq, length_tracePoints, List.length_zip, even,
    Nat.min_self]
  simp

end CurtainQuery

/-! ## Outputs -/

section DescribesOutput

variable {τ ι : Type} [Divisible τ ι] [VolumeTask τ]

/-- A header gives the shape of what the units of every volume address.  All
requested attributes have one shape, recorded or not. -/
structure DescribesOutput (header : ProcessHeader) (manifest : Manifest) (requested : List String)
    (units : List τ) (points : τ → Except Fault (List CubePoint))
    (dataShape attributeShape : List Nat) : Prop where
  data_shape : header.shapeOf? TaskBase.dataAttribute = some dataShape
  data_filled :
    Fills points (units.filter fun unit => volumeName unit = TaskBase.dataAttribute) dataShape
  attributes_shape : ∀ name ∈ normalizedAttributes requested,
    header.shapeOf? name = some attributeShape
  attributes_filled : ∀ name ∈ normalizedAttributes requested,
    (manifest.attribute? name).isSome →
      Fills points (units.filter fun unit => volumeName unit = name) attributeShape
  /-- The volume of a unit is the data volume or that of a recorded attribute. -/
  volumes : ∀ unit ∈ units, volumeName unit = TaskBase.dataAttribute ∨
    volumeName unit ∈ normalizedAttributes requested ∧
      (manifest.attribute? (volumeName unit)).isSome
  unrecorded : ∀ name ∈ normalizedAttributes requested, manifest.attribute? name = none →
    ∀ unit ∈ units, volumeName unit ≠ name

variable {manifest : Manifest} {requested : List String}

theorem DescribesOutput.shapeOf?_volumeName
    {header : ProcessHeader} {units : List τ} {points : τ → Except Fault (List CubePoint)}
    {dataShape attributeShape : List Nat}
    (describes : DescribesOutput header manifest requested units points dataShape attributeShape)
    {unit : τ} (member : unit ∈ units) :
    header.shapeOf? (volumeName unit) =
      some (if volumeName unit = TaskBase.dataAttribute then dataShape else attributeShape) := by
  by_cases named : volumeName unit = TaskBase.dataAttribute
  · rw [if_pos named, named, describes.data_shape]
  · rcases describes.volumes unit member with reserved | ⟨asked, _⟩
    · exact absurd reserved named
    · rw [if_neg named, describes.attributes_shape _ asked]

variable {Extracts : String → Tiling → τ → Prop} {tiling : Tiling} {data : τ} {rest : List τ}

/-- The extents that a unit names are those of its volume. -/
theorem Planned.volumes_of_mem
    (planned : Planned manifest (normalizedAttributes requested) Extracts tiling data rest)
    (taskSize : Nat) :
    ∀ unit ∈ (data :: rest).flatMap (units taskSize),
      volumeName unit = TaskBase.dataAttribute ∧
          (VolumeTask.base unit).cubeShape = tiling.cube ∨
        (volumeName unit ∈ normalizedAttributes requested ∧
          (manifest.attribute? (volumeName unit)).isSome) ∧
            (VolumeTask.base unit).cubeShape = tiling.cube.withZ 1 := by
  intro unit member
  obtain ⟨task, inside, divided⟩ := List.mem_flatMap.mp member
  obtain ⟨ids, _, rfl⟩ := mem_units.mp divided
  rw [volumeName, VolumeTask.base_withIds]
  rcases planned.extracts_of_mem inside with
    extracts | ⟨name, asked, desc, layer, found, tiled, extracts⟩
  · have reads := planned.reads _ _ _ extracts
    exact Or.inl ⟨reads.named, reads.cubeShape⟩
  · have reads := planned.reads _ _ _ extracts
    rw [reads.named, found, reads.cubeShape, planned.layer_cube tiled]
    exact Or.inr ⟨⟨asked, rfl⟩, rfl⟩

/-- If attributes have the shape of a cube with one layer, every unit is given the
shape that belongs to the extents that it names. -/
theorem Planned.shapeOf?_cubeShape
    (planned : Planned manifest (normalizedAttributes requested) Extracts tiling data rest)
    (notAsked : TaskBase.dataAttribute ∉ requested) (shapeOf : Shape → List Nat) {taskSize : Nat}
    {points : τ → Except Fault (List CubePoint)} {header : ProcessHeader}
    (describes : DescribesOutput header manifest requested ((data :: rest).flatMap (units taskSize))
      points (shapeOf tiling.cube) (shapeOf (tiling.cube.withZ 1)))
    {unit : τ} (member : unit ∈ (data :: rest).flatMap (units taskSize)) :
    header.shapeOf? (volumeName unit) = some (shapeOf (VolumeTask.base unit).cubeShape) := by
  rw [describes.shapeOf?_volumeName member]
  rcases planned.volumes_of_mem taskSize unit member with
    ⟨named, extents⟩ | ⟨⟨asked, _⟩, extents⟩
  · rw [if_pos named, extents]
  · rw [if_neg (ne_dataAttribute_of_mem notAsked asked), extents]

/-- The header of a plan describes its output if the units of every task fill
the shape that belongs to the extents of their volume. -/
theorem Planned.describesOutput
    (planned : Planned manifest (normalizedAttributes requested) Extracts tiling data rest)
    (noData : manifest.attribute? TaskBase.dataAttribute = none)
    (notAsked : TaskBase.dataAttribute ∉ requested) (taskSize : Nat)
    (points : τ → Except Fault (List CubePoint)) (shapeOf : Shape → List Nat)
    {attributeShape : List Nat} {header : ProcessHeader}
    (found : ∀ name, header.shapeOf? name =
      if name = TaskBase.dataAttribute then some (shapeOf tiling.cube)
      else if name ∈ normalizedAttributes requested then some attributeShape
      else none)
    (size : (shapeOf (tiling.cube.withZ 1)).prod = attributeShape.prod)
    (fills : ∀ name volume task, Extracts name volume task →
      Fills points (units taskSize task) (shapeOf volume.cube)) :
    DescribesOutput header manifest requested ((data :: rest).flatMap (units taskSize)) points
      (shapeOf tiling.cube) attributeShape := by
  obtain ⟨first, layers⟩ := planned.volumes noData taskSize
    (fun volume tasks => Fills points tasks (shapeOf volume.cube)) fills
  have volumes := planned.volumes_of_mem taskSize
  refine ⟨?_, first, ?_, ?_, ?_, ?_⟩
  · rw [found, if_pos rfl]
  · intro name asked
    rw [found, if_neg (ne_dataAttribute_of_mem notAsked asked), if_pos asked]
  · intro name asked recorded
    obtain ⟨desc, stored⟩ := Option.isSome_iff_exists.mp recorded
    obtain ⟨layer, tiled, carried, read, count⟩ := layers name asked desc stored
    rw [planned.layer_cube tiled, size] at count
    exact ⟨carried, read, count⟩
  · intro unit member
    exact (volumes unit member).imp And.left And.left
  · rintro name asked absent unit member rfl
    rcases volumes unit member with ⟨named, _⟩ | ⟨⟨_, recorded⟩, _⟩
    · exact ne_dataAttribute_of_mem notAsked asked named
    · rw [absent] at recorded
      cases recorded

end DescribesOutput

theorem SliceQuery.dim_of_mem_units
    {query : SliceQuery} {axis : Axis} {manifest : Manifest} {names : List String}
    {tiling : Tiling} {data : SliceTask} {rest : List SliceTask} {taskSize : Nat}
    (plan : Planned manifest names (query.Extracts axis) tiling data rest) {unit : SliceTask}
    (member : unit ∈ (data :: rest).flatMap (units taskSize)) : unit.dim = axis.index := by
  obtain ⟨task, inside, divided⟩ := List.mem_flatMap.mp member
  obtain ⟨ids, _, rfl⟩ := mem_units.mp divided
  rcases plan.extracts_of_mem inside with extracts | ⟨_, _, _, _, _, _, extracts⟩
  · exact extracts.dim
  · exact extracts.dim

/-- The header of a response and its units of work describe one output.  A slice
fills the shape of the cube with one index along the axis of the query, and a
curtain has a row for every trace; attributes have one layer. -/
theorem headers_describe_outputs :
    (∀ (query : SliceQuery) (taskSize : Nat) (set : TaskSet), fitWords query = true →
      query.base.manifest.attribute? TaskBase.dataAttribute = none →
      TaskBase.dataAttribute ∉ query.base.attributes →
      scheduleQuery query taskSize = .ok set →
        ∃ (header : ProcessHeader) (units : List SliceTask) (cube : Shape),
          Responds set header units ∧ query.base.manifest.cubeShape = .ok cube ∧
          DescribesOutput header query.base.manifest query.base.attributes units SliceTask.points
            (cube.toList.set query.dim 1) ((cube.withZ 1).toList.set query.dim 1) ∧
          ∀ unit ∈ units, unit.dim = query.dim ∧
            header.shapeOf? unit.base.attributeName =
              some (unit.base.cubeShape.toList.set unit.dim 1)) ∧
    (∀ (query : CurtainQuery) (taskSize : Nat) (set : TaskSet), fitWords query = true →
      query.base.manifest.attribute? TaskBase.dataAttribute = none →
      TaskBase.dataAttribute ∉ query.base.attributes →
      scheduleQuery query taskSize = .ok set →
        ∃ (header : ProcessHeader) (units : List CurtainTask) (cube : Shape),
          Responds set header units ∧ query.base.manifest.cubeShape = .ok cube ∧
          query.dim0s.length = query.dim1s.length ∧
          DescribesOutput header query.base.manifest query.base.attributes units CurtainTask.points
            [query.dim0s.length, cube.z] [query.dim0s.length] ∧
          ∀ unit ∈ units, header.shapeOf? unit.base.attributeName =
            some (if unit.base.attributeName = TaskBase.dataAttribute then
              [query.dim0s.length, cube.z] else [query.dim0s.length])) := by
  constructor
  · intro query taskSize set words noData notAsked accepted
    obtain ⟨tasks, header, envelope, scheduled⟩ := scheduleQuery_eq_ok accepted
    obtain ⟨axis, tiling, data, rest, along, inside, rfl, plan⟩ :=
      SliceQuery.tasks_eq_ok scheduled.planned
    have measured := (Manifest.tiling_eq_ok.mp plan.tiled).1
    obtain ⟨index, rfl⟩ := SliceQuery.header_eq scheduled.headed measured
    have dim : query.dim = axis.index := along
    -- The index wraps at the extent of the volume, so that an attribute is read in
    -- its only layer.
    have describes := plan.describesOutput noData notAsked taskSize SliceTask.points
      (fun cube => cube.toList.set query.dim 1)
      (ProcessHeader.shapeOf?_ofQuery query.base.normalized .slice set.count index _ _) rfl (by
        intro _ volume _ extracts
        rw [dim]
        exact extracts.fills taskSize)
    refine ⟨_, _, tiling.cube, scheduled.responds words (by decide), measured, describes, ?_⟩
    intro unit member
    have sameDim : unit.dim = query.dim := (SliceQuery.dim_of_mem_units plan member).trans dim.symm
    refine ⟨sameDim, ?_⟩
    rw [sameDim]
    exact plan.shapeOf?_cubeShape notAsked (fun cube => cube.toList.set query.dim 1) describes
      member
  · intro query taskSize set words noData notAsked accepted
    obtain ⟨tasks, header, envelope, scheduled⟩ := scheduleQuery_eq_ok accepted
    obtain ⟨tiling, data, rest, rfl, plan⟩ := CurtainQuery.tasks_eq_ok scheduled.planned
    have measured := (Manifest.tiling_eq_ok.mp plan.tiled).1
    obtain ⟨index, rfl⟩ := CurtainQuery.header_eq scheduled.headed measured
    obtain ⟨_, paired, _⟩ := CurtainQuery.singles_eq_ok.mp plan.data.ids
    have even := (CurtainQuery.pairs_eq_ok.mp paired).1
    have describes := plan.describesOutput noData notAsked taskSize CurtainTask.points
      (fun cube => [query.dim0s.length, cube.z])
      (ProcessHeader.shapeOf?_ofQuery query.base.normalized .curtain set.count index _
        [query.dim0s.length]) rfl
      fun _ _ _ extracts => extracts.fills taskSize
    exact ⟨_, _, tiling.cube, scheduled.responds words (by decide), measured, even, describes,
      fun unit member => describes.shapeOf?_volumeName member⟩

/-- The headers of the small slice and the small curtain describe their outputs.
The second attribute is not recorded, and has the shape of the first. -/
theorem small_headers_describe_outputs :
    (∃ (set : TaskSet) (header : ProcessHeader) (units : List SliceTask),
      scheduleQuery smallSlice 3 = .ok set ∧ Responds set header units ∧
      Fills SliceTask.points (units.filter fun unit => unit.base.attributeName = "data")
        [3, 2, 1] ∧
      header.shapeOf? "data" = some [3, 2, 1] ∧ header.shapeOf? "cdpy" = some [3, 2, 1]) ∧
    (∃ (set : TaskSet) (header : ProcessHeader) (units : List CurtainTask),
      scheduleQuery smallCurtain 3 = .ok set ∧ Responds set header units ∧
      Fills CurtainTask.points (units.filter fun unit => unit.base.attributeName = "data")
        [3, 3] ∧
      header.shapeOf? "data" = some [3, 3] ∧ header.shapeOf? "cdpy" = some [3]) := by
  have requested : "cdpy" ∈ normalizedAttributes smallBase.attributes := by
    rw [smallBase_attributes]
    decide
  constructor
  · obtain ⟨set, accepted, _⟩ := map_eq_ok.mp smallSlice_count
    obtain ⟨header, units, cube, responds, measured, describes, _⟩ :=
      headers_describe_outputs.1 smallSlice 3 set (by decide) rfl (by decide) accepted
    cases measured
    exact ⟨set, header, units, accepted, responds, describes.data_filled, describes.data_shape,
      describes.attributes_shape "cdpy" requested⟩
  · obtain ⟨set, accepted, _⟩ := map_eq_ok.mp smallCurtain_count
    obtain ⟨header, units, cube, responds, measured, _, describes, _⟩ :=
      headers_describe_outputs.2 smallCurtain 3 set (by decide) rfl (by decide) accepted
    cases measured
    exact ⟨set, header, units, accepted, responds, describes.data_filled, describes.data_shape,
      describes.attributes_shape "cdpy" requested⟩

end SurveyCube
