import SurveyCube.Proofs.Plan

/-!
# Plans of slices

The plan of a slice has one task for each volume.  `SliceTask.Extracts` says
which plane of which volume a task extracts; everything else that is known of
the tasks of a slice follows from it.
-/

namespace SurveyCube

namespace Tiling

variable {tiling : Tiling} {axis : Axis} {index : Nat} {ids : List FragmentId}

theorem slice_eq_ok :
    tiling.slice axis index = .ok ids ↔
      index < tiling.cube.get axis ∧
        Shape.plane tiling.counts axis (index / tiling.fragment.get axis) = ids := by
  unfold slice
  split
  · rename_i inside
    simp [inside]
  · rename_i outside
    simp [outside]

/-- A plane of the cube meets the fragments in the grid that have its index. -/
theorem mem_slice_iff (cut : tiling.slice axis index = .ok ids) {id : FragmentId} :
    id ∈ ids ↔
      id.Within tiling.counts ∧ id.get axis = index / tiling.fragment.get axis := by
  obtain ⟨inside, rfl⟩ := slice_eq_ok.mp cut
  apply Shape.mem_plane_iff
  rw [get_counts]
  exact div_lt_count inside

end Tiling

namespace SliceTask

/-- The task extracts the plane at an index along an axis of one volume. -/
structure Extracts (task : SliceTask) (name : String) (tiling : Tiling) (axis : Axis)
    (index : Nat) : Prop where
  reads : task.base.Reads name tiling
  dim : task.dim = axis.index
  idx : task.idx = Shape.planeIndex tiling.fragment axis index
  ids : tiling.slice axis index = .ok task.ids

theorem Extracts.fitWords
    {task : SliceTask} {name : String} {tiling : Tiling} {axis : Axis} {index : Nat}
    (extracts : task.Extracts name tiling axis index)
    (words : SurveyCube.fitWords tiling.cube = true ∧ SurveyCube.fitWords tiling.fragment = true)
    (small : index < wordLimit) : SurveyCube.fitWords task = true := by
  rw [fitWords_iff, extracts.dim, extracts.idx]
  refine ⟨extracts.reads.fitWords words.1 words.2, ?_, ?_, ?_⟩
  · cases axis <;> decide
  · rw [fitWords_nat_iff]
    exact Nat.lt_of_le_of_lt (Nat.mod_le index _) small
  · rw [fitWords_list_iff]
    intro id member
    have grid := (Tiling.mem_slice_iff extracts.ids).mp member
    exact Tiling.fitWords_of_within_counts words.1 grid.1

end SliceTask

namespace SliceQuery

variable {query : SliceQuery}

theorem taskOf_extracts
    {base : TaskBase} {name : String} {tiling : Tiling} {axis : Axis} {index : Nat}
    {task : SliceTask} (reads : base.Reads name tiling) (along : query.dim = axis.index)
    (built : query.taskOf base tiling axis index = .ok task) :
    task.Extracts name tiling axis index := by
  obtain ⟨ids, cut, built⟩ := bind_eq_ok.mp built
  have same := pure_eq_ok.mp built
  subst same
  exact ⟨reads, along, rfl, cut⟩

/-- The task extracts the plane of the query from one volume, where the index
of the query wraps around. -/
def Extracts (query : SliceQuery) (axis : Axis) (name : String) (tiling : Tiling)
    (task : SliceTask) : Prop :=
  task.Extracts name tiling axis (query.idx % tiling.cube.get axis)

theorem attributeTask_extracts
    {axis : Axis} {desc : AttributeDesc} {task : SliceTask} (along : query.dim = axis.index)
    (built : query.attributeTask axis desc = .ok task) :
    ∃ layer, query.base.manifest.attributeTiling desc = .ok layer ∧
      query.Extracts axis desc.name layer task := by
  obtain ⟨base, shared, built⟩ := bind_eq_ok.mp built
  obtain ⟨layer, tiled, built⟩ := bind_eq_ok.mp built
  obtain ⟨reads, recorded⟩ := TaskBase.ofAttribute_reads shared tiled
  exact ⟨layer, recorded, taskOf_extracts reads along built⟩

theorem tasks_eq_ok {tasks : List SliceTask} (planned : query.tasks = .ok tasks) :
    ∃ axis tiling data rest, query.dim = axis.index ∧ query.idx < tiling.cube.get axis ∧
      tasks = data :: rest ∧
        Planned query.base.manifest query.base.attributes (query.Extracts axis) tiling data
          rest := by
  obtain ⟨tiling, tiled, planned⟩ := bind_eq_ok.mp planned
  obtain ⟨axis, found, planned⟩ := bind_eq_ok.mp planned
  obtain ⟨base, shared, planned⟩ := bind_eq_ok.mp planned
  obtain ⟨data, built, planned⟩ := bind_eq_ok.mp planned
  obtain ⟨rest, attributes, planned⟩ := bind_eq_ok.mp planned
  have along := Axis.ofIndex_eq_ok.mp found
  have extracts := taskOf_extracts (TaskBase.ofData_reads shared tiled) along built
  have inside := (Tiling.slice_eq_ok.mp extracts.ids).1
  refine ⟨axis, tiling, data, rest, along, inside, (pure_eq_ok.mp planned).symm, tiled, ?_, ?_, ?_⟩
  · intro name tiling task extracts
    exact extracts.reads
  · rw [Extracts, Nat.mod_eq_of_lt inside]
    exact extracts
  · exact (mapM_eq_ok.mp attributes).imp fun _ _ built => attributeTask_extracts along built

theorem fitWords_tasks {tasks : List SliceTask} (planned : query.tasks = .ok tasks)
    (words : fitWords query = true) : ∀ task ∈ tasks, fitWords task = true := by
  obtain ⟨axis, tiling, data, rest, _, _, rfl, plan⟩ := tasks_eq_ok planned
  obtain ⟨manifest, _, idx⟩ := fitWords_iff.mp words
  rw [fitWords_nat_iff] at idx
  intro task member
  obtain ⟨name, volume, extracts, fits⟩ := plan.exists_volume manifest task member
  exact extracts.fitWords fits (Nat.lt_of_le_of_lt (Nat.mod_le _ _) idx)

end SliceQuery

end SurveyCube
