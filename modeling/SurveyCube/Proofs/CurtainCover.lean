import Mathlib.Data.List.Perm.Basic
import SurveyCube.Proofs.Schedule

/-!
# A curtain reads every trace over its whole depth

A worker reads, for every single, the traces at its places from the top of the
fragment to its bottom, or to the bottom of the cube.  `Single.points` lists
the global points of these cells.

* The layers of a column join to the whole depth.
* So the points of a column are its traces, each over the whole depth.
* The columns of a volume hold every trace of the polyline, as often as the
  polyline passes there.
-/

namespace SurveyCube

/-- The global points of the cells that a worker reads for a single. -/
def Single.points (single : Single) (fragment : Shape) (depth : Nat) : List CubePoint :=
  single.coordinates.flatMap fun (x, y) =>
    ((List.range fragment.z).filter fun z => single.id.z * fragment.z + z < depth).map fun z =>
      ⟨single.id.x * fragment.x + x, single.id.y * fragment.y + y, single.id.z * fragment.z + z⟩

/-- The points of the trace through a pair. -/
def tracePoints (depth : Nat) (pair : Nat × Nat) : List CubePoint :=
  (List.range depth).map fun z => ⟨pair.1, pair.2, z⟩

/-- Tasks together read the traces of a polyline from one volume. -/
structure CoversCurtain (pairs : List (Nat × Nat)) (tiling : Tiling) (tasks : List CurtainTask) :
    Prop where
  /-- Every point is read as often as the polyline passes through its trace. -/
  points : ((tasks.flatMap CurtainTask.ids).flatMap fun single =>
      single.points tiling.fragment tiling.cube.z).Perm
    (pairs.flatMap (tracePoints tiling.cube.z))
  /-- The fragments come in ascending order. -/
  ascending : ((tasks.flatMap CurtainTask.ids).map Single.id).Pairwise (· < ·)
  /-- No fragment comes twice. -/
  once : ((tasks.flatMap CurtainTask.ids).map Single.id).Nodup

/-! ## Layers -/

theorem flatMap_swap_perm {α β γ : Type} (first : List α) (second : List β)
    (f : α → β → List γ) :
    (first.flatMap fun a => second.flatMap (f a)).Perm
      (second.flatMap fun b => first.flatMap fun a => f a b) := by
  induction first with
  | nil =>
      simp
  | cons a rest ih =>
      simp only [List.flatMap_cons]
      refine (ih.append_left _).trans ?_
      exact List.flatMap_append_perm second (f a) fun b => rest.flatMap fun a => f a b

/-- The depths of the cells in one layer of fragments. -/
def layerDepths (fragment depth layer : Nat) : List Nat :=
  ((List.range fragment).filter fun z => layer * fragment + z < depth).map (layer * fragment + ·)

theorem mem_layerDepths {fragment depth layer z : Nat} :
    z ∈ layerDepths fragment depth layer ↔
      z < depth ∧ ∃ i < fragment, layer * fragment + i = z := by
  simp only [layerDepths, List.mem_map, List.mem_filter, List.mem_range, decide_eq_true_eq]
  constructor
  · rintro ⟨i, ⟨inside, above⟩, rfl⟩
    exact ⟨above, i, inside, rfl⟩
  · rintro ⟨above, i, inside, rfl⟩
    exact ⟨i, ⟨inside, above⟩, rfl⟩

theorem layerDepths_ascending (fragment depth layer : Nat) :
    (layerDepths fragment depth layer).Pairwise (· < ·) := by
  rw [layerDepths, List.pairwise_map]
  refine List.Pairwise.imp ?_ (List.pairwise_lt_range.filter _)
  intro i j before
  exact Nat.add_lt_add_left before _

/-- The layers of a volume join to its whole depth. -/
theorem layers_perm (tiling : Tiling) :
    ((List.range (tiling.count .depth)).flatMap
        (layerDepths tiling.fragment.z tiling.cube.z)).Perm (List.range tiling.cube.z) := by
  have ascending : ((List.range (tiling.count .depth)).flatMap
      (layerDepths tiling.fragment.z tiling.cube.z)).Pairwise (· < ·) := by
    apply Shape.pairwise_flatMap_of_ascending List.pairwise_lt_range
    · intro layer _
      exact layerDepths_ascending _ _ layer
    · intro i j before a here b there
      obtain ⟨_, r, inside, rfl⟩ := mem_layerDepths.mp here
      obtain ⟨_, s, _, rfl⟩ := mem_layerDepths.mp there
      have next : (i + 1) * tiling.fragment.z ≤ j * tiling.fragment.z :=
        Nat.mul_le_mul_right _ before
      rw [Nat.succ_mul] at next
      omega
  have distinct := ascending.imp fun before => Nat.ne_of_lt before
  rw [List.perm_ext_iff_of_nodup distinct List.nodup_range]
  intro z
  rw [List.mem_flatMap, List.mem_range]
  constructor
  · rintro ⟨layer, _, inside⟩
    exact (mem_layerDepths.mp inside).1
  · intro inside
    have positive : 0 < tiling.fragment.z := tiling.fragment_get_pos .depth
    have grid : z / tiling.fragment.get .depth < tiling.count .depth :=
      Tiling.div_lt_count inside
    refine ⟨z / tiling.fragment.z, List.mem_range.mpr grid, ?_⟩
    exact mem_layerDepths.mpr
      ⟨inside, z % tiling.fragment.z, Nat.mod_lt z positive, Nat.div_add_mod' z _⟩

/-! ## Columns -/

/-- The points of the trace at a place of a column. -/
def placePoints (tiling : Tiling) (entry : FragmentId × (Nat × Nat)) : List CubePoint :=
  tracePoints tiling.cube.z
    (entry.1.x * tiling.fragment.x + entry.2.1, entry.1.y * tiling.fragment.y + entry.2.2)

/-- The place of a located trace leads back to the pair that it passes through. -/
theorem placePoints_located (tiling : Tiling) (pair : Nat × Nat) (position : Nat) :
    placePoints tiling
        ((Trace.located tiling pair position).column, (Trace.located tiling pair position).place) =
      tracePoints tiling.cube.z pair := by
  have whole := tiling.globalOf_rootOf_localOf (Trace.top pair)
  have first := congrArg Triple.x whole
  have second := congrArg Triple.y whole
  exact congrArg (tracePoints tiling.cube.z) (Prod.ext first second)

/-- The singles of a column hold its traces, each over the whole depth. -/
theorem Column.points_perm (tiling : Tiling) (column : Column) :
    ((column.singles (tiling.count .depth)).flatMap fun single =>
        single.points tiling.fragment tiling.cube.z).Perm
      (column.entries.flatMap (placePoints tiling)) := by
  have byLayer : ((column.singles (tiling.count .depth)).flatMap fun single =>
        single.points tiling.fragment tiling.cube.z) =
      (List.range (tiling.count .depth)).flatMap fun layer =>
        column.places.flatMap fun place =>
          (layerDepths tiling.fragment.z tiling.cube.z layer).map fun z =>
            ⟨column.top.x * tiling.fragment.x + place.1,
              column.top.y * tiling.fragment.y + place.2, z⟩ := by
    simp only [Column.singles, List.flatMap_map, Single.points, layerDepths, List.map_map]
    rfl
  rw [byLayer, Column.entries, List.flatMap_map]
  refine (flatMap_swap_perm _ _ _).trans (List.Perm.flatMap_left _ ?_)
  intro place _
  rw [← List.map_flatMap]
  exact (layers_perm tiling).map _

/-! ## Polylines -/

namespace CurtainQuery

variable {query : CurtainQuery} {tiling : Tiling} {singles : List Single}

theorem singles_ascending (planned : query.singles tiling = .ok singles) :
    (singles.map Single.id).Pairwise (· < ·) := by
  obtain ⟨pairs, _, _, rfl⟩ := singles_eq_ok.mp planned
  rw [List.pairwise_map]
  exact Column.flatMap_singles_ascending (listed_traces tiling pairs) _

theorem singles_points (planned : query.singles tiling = .ok singles) :
    (singles.flatMap fun single => single.points tiling.fragment tiling.cube.z).Perm
      ((query.dim0s.zip query.dim1s).flatMap (tracePoints tiling.cube.z)) := by
  obtain ⟨pairs, paired, _, rfl⟩ := singles_eq_ok.mp planned
  obtain ⟨_, rfl⟩ := pairs_eq_ok.mp paired
  rw [List.flatMap_assoc]
  have columns := List.Perm.flatMap_left
    (Column.ofTraces (traces tiling (query.dim0s.zip query.dim1s)))
    fun column _ => column.points_perm tiling
  have places := (Column.entries_ofTraces
    (traces tiling (query.dim0s.zip query.dim1s))).flatMap_right (placePoints tiling)
  rw [List.flatMap_assoc] at places
  refine (columns.trans places).trans (List.Perm.of_eq ?_)
  rw [traces, List.map_map, List.flatMap_map]
  simp only [Function.comp_apply, placePoints_located]
  rw [← List.flatMap_map Prod.fst, List.zipIdx_map_fst]

/-- The units of work of a task together read the traces of the query. -/
theorem Extracts.coversCurtain
    {name : String} {task : CurtainTask} (extracts : query.Extracts name tiling task)
    (taskSize : Nat) :
    CoversCurtain (query.dim0s.zip query.dim1s) tiling (units taskSize task) := by
  have ids : (units taskSize task).flatMap CurtainTask.ids = task.ids :=
    flatMap_ids_units taskSize task
  have ascending := singles_ascending extracts.ids
  refine ⟨?_, ?_, ?_⟩
  · rw [ids]
    exact singles_points extracts.ids
  · rw [ids]
    exact ascending
  · rw [ids]
    exact Triple.nodup_of_ascending ascending

end CurtainQuery

/-- The units of work of an accepted curtain read the traces of the polyline from
the data volume and from every requested attribute volume that is recorded. -/
theorem curtain_reads_every_trace
    (query : CurtainQuery) (taskSize : Nat) (set : TaskSet) (words : fitWords query = true)
    (noData : query.base.manifest.attribute? TaskBase.dataAttribute = none)
    (accepted : scheduleQuery query taskSize = .ok set) :
    ∃ units tiling,
      Decodes set units ∧
      query.dim0s.length = query.dim1s.length ∧
      query.base.manifest.tiling = .ok tiling ∧
      CoversCurtain (query.dim0s.zip query.dim1s) tiling
        (units.filter fun unit => unit.base.attributeName = TaskBase.dataAttribute) ∧
      ∀ name ∈ normalizedAttributes query.base.attributes, ∀ desc,
        query.base.manifest.attribute? name = some desc →
          ∃ layer, query.base.manifest.attributeTiling desc = .ok layer ∧
            layer.cube = tiling.cube.withZ 1 ∧
            CoversCurtain (query.dim0s.zip query.dim1s) layer
              (units.filter fun unit => unit.base.attributeName = name) := by
  obtain ⟨tasks, header, envelope, scheduled⟩ := scheduleQuery_eq_ok accepted
  obtain ⟨tiling, data, rest, rfl, plan⟩ := CurtainQuery.tasks_eq_ok scheduled.planned
  have decodes := scheduled.decodes words (by decide)
  obtain ⟨_, paired, _⟩ := CurtainQuery.singles_eq_ok.mp plan.data.ids
  have even := (CurtainQuery.pairs_eq_ok.mp paired).1
  obtain ⟨first, layers⟩ := plan.volumes noData taskSize
    (CoversCurtain (query.dim0s.zip query.dim1s))
    fun _ _ _ extracts => CurtainQuery.Extracts.coversCurtain extracts taskSize
  refine ⟨_, tiling, decodes, even, plan.tiled, first, ?_⟩
  intro name requested desc found
  obtain ⟨layer, tiled, covers⟩ := layers name requested desc found
  exact ⟨layer, tiled, plan.layer_cube tiled, covers⟩

/-- The small curtain reads its traces from the data and from its attribute. -/
theorem smallCurtain_reads_every_trace :
    ∃ set units tiling layer,
      scheduleQuery smallCurtain 3 = .ok set ∧ Decodes set units ∧
      CoversCurtain [(2, 1), (0, 0), (2, 0)] tiling
        (units.filter fun unit => unit.base.attributeName = TaskBase.dataAttribute) ∧
      CoversCurtain [(2, 1), (0, 0), (2, 0)] layer
        (units.filter fun unit => unit.base.attributeName = "cdpx") := by
  obtain ⟨set, accepted, _⟩ := map_eq_ok.mp smallCurtain_count
  obtain ⟨units, tiling, decodes, _, _, data, layers⟩ :=
    curtain_reads_every_trace smallCurtain 3 set (by decide) (by decide) accepted
  obtain ⟨layer, _, _, covers⟩ := layers "cdpx" smallBase_requested _ rfl
  exact ⟨set, units, tiling, layer, accepted, decodes, data, covers⟩

end SurveyCube
