import Mathlib.Data.List.ProdSigma
import SurveyCube.Proofs.Schedule

/-!
# A slice reads every cell of its plane once

A worker that carries out a unit of work goes over the fragments of the unit
and over the cells of the local plane in each of them, and asks for the number
of every cell in the whole cube.  `SliceTask.reads` is this enumeration, and
`ReadsPlane` says what the enumerations of all units of one volume give
together: the cells of the plane of the query, each of them once, and beside
them nothing but padding.
-/

namespace SurveyCube

/-- A cell of a fragment, and its number in the cube if it is no padding. -/
abbrev CellRead := (FragmentId × Nat) × Except Fault Nat

namespace SliceTask

/-- The cells that a worker reads for a task. -/
def reads (task : SliceTask) : Except Fault (List CellRead) := do
  let tiling ← task.base.tiling
  let axis ← Axis.ofIndex task.dim
  let offsets ← Shape.planeOffsets task.base.shape axis task.idx
  return task.ids.flatMap fun id =>
    offsets.map fun offset => ((id, offset), tiling.globalOffset offset id)

end SliceTask

/-- The numbers of the cells that are read with success. -/
def cellNumbers (reads : List CellRead) : List Nat :=
  reads.filterMap fun read => read.2.toOption

/-- The cell lies on a plane of the volume but is padding of a partial fragment. -/
def Tiling.IsPadding (tiling : Tiling) (axis : Axis) (index : Nat) (id : FragmentId)
    (offset : Nat) : Prop :=
  id.Within tiling.counts ∧ offset < tiling.fragment.volume ∧
    (tiling.globalOf id (Shape.pointAt tiling.fragment offset)).get axis = index ∧
    ¬ (tiling.globalOf id (Shape.pointAt tiling.fragment offset)).Within tiling.cube

/-- The reads are those of one plane of a volume. -/
structure ReadsPlane (tiling : Tiling) (axis : Axis) (index : Nat) (reads : List CellRead) :
    Prop where
  /-- No cell of a fragment is read twice. -/
  cells_nodup : (reads.map Prod.fst).Nodup
  /-- No cell of the cube is read twice. -/
  numbers_nodup : (cellNumbers reads).Nodup
  /-- The cells of the cube that are read are those of the plane. -/
  mem_numbers : ∀ n, n ∈ cellNumbers reads ↔
    ∃ p : CubePoint, p.Within tiling.cube ∧ p.get axis = index ∧ Shape.offset tiling.cube p = n
  /-- The reads that fail are those of padding. -/
  fails_iff : ∀ id offset, (∃ fault, ((id, offset), .error fault) ∈ reads) ↔
    tiling.IsPadding axis index id offset

/-- The tasks can be carried out, and together they read one plane of a volume. -/
def CoversPlane (tiling : Tiling) (axis : Axis) (index : Nat) (tasks : List SliceTask) : Prop :=
  ∃ reads, tasks.mapM SliceTask.reads = .ok reads ∧ ReadsPlane tiling axis index reads.flatten

/-! ## The cells of a plane in the fragments that it meets -/

namespace Tiling

variable {tiling : Tiling} {axis : Axis} {index : Nat}

theorem globalOffset_eq_ok {id : FragmentId} {cell : LocalPoint} {n : Nat}
    (inside : cell.Within tiling.fragment) :
    tiling.globalOffset (Shape.offset tiling.fragment cell) id = .ok n ↔
      (tiling.globalOf id cell).Within tiling.cube ∧
        Shape.offset tiling.cube (tiling.globalOf id cell) = n := by
  rw [globalOffset_offset inside, map_eq_ok]
  constructor
  · rintro ⟨p, found, same⟩
    obtain ⟨within, rfl⟩ := inside_eq_ok.mp found
    exact ⟨within, same⟩
  · rintro ⟨within, same⟩
    exact ⟨_, inside_of_within within, same⟩

theorem globalOffset_eq_error {id : FragmentId} {cell : LocalPoint}
    (inside : cell.Within tiling.fragment) :
    (∃ fault, tiling.globalOffset (Shape.offset tiling.fragment cell) id = .error fault) ↔
      ¬ (tiling.globalOf id cell).Within tiling.cube := by
  cases outcome : tiling.globalOffset (Shape.offset tiling.fragment cell) id with
  | ok n =>
      have within := ((globalOffset_eq_ok inside).mp outcome).1
      simp [within]
  | error fault =>
      simp only [Except.error.injEq, exists_eq', true_iff]
      intro within
      rw [(globalOffset_eq_ok inside).mpr ⟨within, rfl⟩] at outcome
      cases outcome

/-- The cells of the fragments that the plane at an index meets. -/
def planeCells (tiling : Tiling) (axis : Axis) (index : Nat) : List (FragmentId × LocalPoint) :=
  Shape.plane tiling.counts axis (index / tiling.fragment.get axis) ×ˢ
    Shape.plane tiling.fragment axis (index % tiling.fragment.get axis)

theorem planeCells_nodup (tiling : Tiling) (axis : Axis) (index : Nat) :
    (tiling.planeCells axis index).Nodup :=
  (Shape.plane_nodup _ axis _).product (Shape.plane_nodup _ axis _)

/-- They are the cells of fragments in the grid at global points of the plane. -/
theorem mem_planeCells (inside : index < tiling.cube.get axis) {id : FragmentId}
    {cell : LocalPoint} :
    (id, cell) ∈ tiling.planeCells axis index ↔
      id.Within tiling.counts ∧ cell.Within tiling.fragment ∧
        (tiling.globalOf id cell).get axis = index := by
  have grid : index / tiling.fragment.get axis < tiling.counts.get axis := by
    rw [get_counts]
    exact div_lt_count inside
  have place : index % tiling.fragment.get axis < tiling.fragment.get axis :=
    Nat.mod_lt _ (tiling.fragment_get_pos axis)
  rw [planeCells, List.mem_product, Shape.mem_plane_iff grid, Shape.mem_plane_iff place]
  constructor
  · rintro ⟨⟨inGrid, root⟩, inFragment, localIndex⟩
    exact ⟨inGrid, inFragment, (globalOf_get_iff inFragment).mpr ⟨root, localIndex⟩⟩
  · rintro ⟨inGrid, inFragment, along⟩
    obtain ⟨root, localIndex⟩ := (globalOf_get_iff inFragment).mp along
    exact ⟨⟨inGrid, root⟩, inFragment, localIndex⟩

/-- What is read of a cell of a fragment. -/
def readCell (tiling : Tiling) (place : FragmentId × LocalPoint) : CellRead :=
  ((place.1, Shape.offset tiling.fragment place.2),
    tiling.globalOffset (Shape.offset tiling.fragment place.2) place.1)

/-- A cell that is read with success is at the point of its number. -/
theorem readCell_eq_some (inside : index < tiling.cube.get axis)
    {place : FragmentId × LocalPoint} (member : place ∈ tiling.planeCells axis index) {n : Nat} :
    (tiling.readCell place).2.toOption = some n ↔
      (tiling.globalOf place.1 place.2).Within tiling.cube ∧
        Shape.offset tiling.cube (tiling.globalOf place.1 place.2) = n := by
  have inFragment := ((mem_planeCells inside).mp member).2.1
  rw [← globalOffset_eq_ok inFragment, readCell]
  cases tiling.globalOffset (Shape.offset tiling.fragment place.2) place.1 <;>
    simp [Except.toOption]

theorem readCells_nodup (inside : index < tiling.cube.get axis) :
    (((tiling.planeCells axis index).map tiling.readCell).map Prod.fst).Nodup := by
  rw [List.map_map]
  refine (planeCells_nodup tiling axis index).map_on ?_
  rintro ⟨id, cell⟩ here ⟨other, further⟩ there same
  obtain ⟨sameId, sameOffset⟩ := Prod.mk.inj same
  have inFragment := ((mem_planeCells inside).mp here).2.1
  have furtherInFragment := ((mem_planeCells inside).mp there).2.1
  rw [Prod.mk.injEq]
  exact ⟨sameId, Shape.offset_injective inFragment furtherInFragment sameOffset⟩

theorem readNumbers_nodup (inside : index < tiling.cube.get axis) :
    (cellNumbers ((tiling.planeCells axis index).map tiling.readCell)).Nodup := by
  rw [cellNumbers, List.filterMap_map, List.Nodup, List.pairwise_filterMap]
  refine (planeCells_nodup tiling axis index).imp_of_mem ?_
  rintro ⟨id, cell⟩ ⟨other, further⟩ here there differ n found m again same
  obtain ⟨within, number⟩ := (readCell_eq_some inside here).mp found
  obtain ⟨furtherWithin, furtherNumber⟩ := (readCell_eq_some inside there).mp again
  have inFragment := ((mem_planeCells inside).mp here).2.1
  have furtherInFragment := ((mem_planeCells inside).mp there).2.1
  -- Equal numbers are numbers of one point, and a point is in one place only.
  have point : tiling.globalOf id cell = tiling.globalOf other further :=
    Shape.offset_injective within furtherWithin (by rw [number, same, furtherNumber])
  obtain ⟨rfl, rfl⟩ := (globalOf_eq_iff inFragment).mp point
  rw [rootOf_globalOf other furtherInFragment, localOf_globalOf other furtherInFragment] at differ
  exact differ rfl

theorem mem_readNumbers (inside : index < tiling.cube.get axis) {n : Nat} :
    n ∈ cellNumbers ((tiling.planeCells axis index).map tiling.readCell) ↔
      ∃ p : CubePoint, p.Within tiling.cube ∧ p.get axis = index ∧
        Shape.offset tiling.cube p = n := by
  rw [cellNumbers, List.filterMap_map, List.mem_filterMap]
  constructor
  · rintro ⟨⟨id, cell⟩, member, found⟩
    obtain ⟨within, number⟩ := (readCell_eq_some inside member).mp found
    exact ⟨_, within, ((mem_planeCells inside).mp member).2.2, number⟩
  · rintro ⟨p, within, along, number⟩
    have member : (tiling.rootOf p, tiling.localOf p) ∈ tiling.planeCells axis index := by
      rw [mem_planeCells inside, globalOf_rootOf_localOf]
      exact ⟨rootOf_within within, localOf_within tiling p, along⟩
    refine ⟨_, member, (readCell_eq_some inside member).mpr ?_⟩
    rw [globalOf_rootOf_localOf]
    exact ⟨within, number⟩

theorem readCell_fails_iff (inside : index < tiling.cube.get axis) (id : FragmentId)
    (offset : Nat) :
    (∃ fault, ((id, offset), .error fault) ∈
        (tiling.planeCells axis index).map tiling.readCell) ↔
      tiling.IsPadding axis index id offset := by
  simp only [List.mem_map]
  constructor
  · rintro ⟨fault, ⟨other, cell⟩, member, read⟩
    have cells : (other, Shape.offset tiling.fragment cell) = (id, offset) :=
      congrArg Prod.fst read
    obtain ⟨rfl, rfl⟩ := Prod.mk.inj cells
    have failed : tiling.globalOffset (Shape.offset tiling.fragment cell) other = .error fault :=
      congrArg Prod.snd read
    obtain ⟨grid, inFragment, along⟩ := (mem_planeCells inside).mp member
    have outside := (globalOffset_eq_error inFragment).mp ⟨fault, failed⟩
    refine ⟨grid, Shape.offset_lt_volume inFragment, ?_⟩
    rw [Shape.pointAt_offset inFragment]
    exact ⟨along, outside⟩
  · rintro ⟨grid, small, along, outside⟩
    have inFragment := Shape.pointAt_within small
    obtain ⟨fault, failed⟩ := (globalOffset_eq_error inFragment).mpr outside
    refine ⟨fault, _, (mem_planeCells inside).mpr ⟨grid, inFragment, along⟩, ?_⟩
    rw [readCell, failed, Shape.offset_pointAt]

theorem readsPlane (inside : index < tiling.cube.get axis) :
    ReadsPlane tiling axis index ((tiling.planeCells axis index).map tiling.readCell) where
  cells_nodup := readCells_nodup inside
  numbers_nodup := readNumbers_nodup inside
  mem_numbers _ := mem_readNumbers inside
  fails_iff := readCell_fails_iff inside

end Tiling

/-! ## The reads of the units of a task -/

namespace SliceTask

variable {task : SliceTask} {name : String} {tiling : Tiling} {axis : Axis} {index : Nat}

theorem Extracts.reads_withIds (extracts : task.Extracts name tiling axis index)
    (ids : List FragmentId) :
    SliceTask.reads { task with ids } = .ok (ids.flatMap fun id =>
      (Shape.plane tiling.fragment axis (index % tiling.fragment.get axis)).map fun cell =>
        tiling.readCell (id, cell)) := by
  have place : index % tiling.fragment.get axis < tiling.fragment.get axis :=
    Nat.mod_lt _ (tiling.fragment_get_pos axis)
  have offsets : Shape.planeOffsets task.base.shape axis task.idx =
      .ok ((Shape.plane tiling.fragment axis (index % tiling.fragment.get axis)).map
        (Shape.offset tiling.fragment)) := by
    rw [extracts.reads.shape, extracts.idx]
    exact if_pos place
  have along : Axis.ofIndex task.dim = .ok axis := Axis.ofIndex_eq_ok.mpr extracts.dim
  refine bind_eq_ok.mpr ⟨tiling, extracts.reads.tiling_eq, bind_eq_ok.mpr ⟨axis, along,
    bind_eq_ok.mpr ⟨_, offsets, pure_eq_ok.mpr ?_⟩⟩⟩
  simp only [List.map_map]
  rfl

/-- The units of work of a task together read what the task reads. -/
theorem Extracts.coversPlane (extracts : task.Extracts name tiling axis index) (taskSize : Nat) :
    CoversPlane tiling axis index (units taskSize task) := by
  obtain ⟨inside, cut⟩ := Tiling.slice_eq_ok.mp extracts.ids
  have each : ∀ unit ∈ units taskSize task, SliceTask.reads unit =
      .ok ((Divisible.ids unit).flatMap fun id =>
        (Shape.plane tiling.fragment axis (index % tiling.fragment.get axis)).map fun cell =>
          tiling.readCell (id, cell)) := by
    intro unit member
    obtain ⟨ids, _, rfl⟩ := mem_units.mp member
    exact extracts.reads_withIds ids
  refine ⟨_, mapM_eq_ok_map each, ?_⟩
  have joined : Divisible.ids task =
      Shape.plane tiling.counts axis (index / tiling.fragment.get axis) := cut.symm
  have product :
      ((units taskSize task).map fun unit => (Divisible.ids unit).flatMap fun id =>
        (Shape.plane tiling.fragment axis (index % tiling.fragment.get axis)).map fun cell =>
          tiling.readCell (id, cell)).flatten =
        (tiling.planeCells axis index).map tiling.readCell := by
    rw [← List.flatMap_def, ← List.flatMap_assoc, flatMap_ids_units, joined, Tiling.planeCells]
    simp only [SProd.sprod, List.product, List.map_flatMap, List.map_map]
    rfl
  rw [product]
  exact Tiling.readsPlane inside

end SliceTask

/-! ## Slices -/

/-- The units of work of an accepted slice read the plane of the query from the
data volume and from every requested attribute volume that is recorded, every
cell once.  Attribute volumes have one layer, so a plane in depth is that layer. -/
theorem slice_reads_every_cell_once
    (query : SliceQuery) (taskSize : Nat) (set : TaskSet) (words : fitWords query = true)
    (noData : query.base.manifest.attribute? TaskBase.dataAttribute = none)
    (accepted : scheduleQuery query taskSize = .ok set) :
    ∃ units axis tiling,
      Decodes set units ∧
      Axis.ofIndex query.dim = .ok axis ∧
      query.base.manifest.tiling = .ok tiling ∧
      CoversPlane tiling axis query.idx
        (units.filter fun unit => unit.base.attributeName = TaskBase.dataAttribute) ∧
      ∀ name ∈ normalizedAttributes query.base.attributes, ∀ desc,
        query.base.manifest.attribute? name = some desc →
          ∃ layer, query.base.manifest.attributeTiling desc = .ok layer ∧
            layer.cube = tiling.cube.withZ 1 ∧
            CoversPlane layer axis (if axis = .depth then 0 else query.idx)
              (units.filter fun unit => unit.base.attributeName = name) := by
  obtain ⟨tasks, header, envelope, scheduled⟩ := scheduleQuery_eq_ok accepted
  obtain ⟨axis, tiling, data, rest, along, inside, rfl, plan⟩ :=
    SliceQuery.tasks_eq_ok scheduled.planned
  have decodes := scheduled.decodes words (by decide)
  have inside : query.idx < tiling.cube.get axis := inside
  obtain ⟨first, layers⟩ := plan.volumes noData taskSize
    (fun volume tasks => CoversPlane volume axis (query.idx % volume.cube.get axis) tasks)
    fun _ _ _ extracts => SliceTask.Extracts.coversPlane extracts taskSize
  refine ⟨_, axis, tiling, decodes, Axis.ofIndex_eq_ok.mpr along, plan.tiled, ?_, ?_⟩
  · rw [Nat.mod_eq_of_lt inside] at first
    exact first
  · intro name requested desc found
    obtain ⟨layer, tiled, covers⟩ := layers name requested desc found
    have shape := plan.layer_cube tiled
    have wrapped : query.idx % layer.cube.get axis = if axis = .depth then 0 else query.idx := by
      rw [shape]
      cases axis with
      | depth => exact Nat.mod_one query.idx
      | inline => exact Nat.mod_eq_of_lt inside
      | crossline => exact Nat.mod_eq_of_lt inside
    rw [wrapped] at covers
    exact ⟨layer, tiled, shape, covers⟩

/-- The small slice reads a plane of the data and the layer of its attribute. -/
theorem smallSlice_reads_every_cell_once :
    ∃ set units tiling layer,
      scheduleQuery smallSlice 3 = .ok set ∧ Decodes set units ∧
      CoversPlane tiling .depth 1
        (units.filter fun unit => unit.base.attributeName = TaskBase.dataAttribute) ∧
      CoversPlane layer .depth 0 (units.filter fun unit => unit.base.attributeName = "cdpx") := by
  obtain ⟨set, accepted, _⟩ := map_eq_ok.mp smallSlice_count
  obtain ⟨units, axis, tiling, decodes, along, _, data, layers⟩ :=
    slice_reads_every_cell_once smallSlice 3 set (by decide) (by decide) accepted
  have depth : axis = .depth := by
    have same : smallSlice.dim = axis.index := Axis.ofIndex_eq_ok.mp along
    cases axis with
    | depth => rfl
    | inline => cases same
    | crossline => cases same
  obtain ⟨layer, _, _, covers⟩ := layers "cdpx" smallBase_requested _ rfl
  rw [depth] at data covers
  exact ⟨set, units, tiling, layer, accepted, decodes, data, covers⟩

end SurveyCube
