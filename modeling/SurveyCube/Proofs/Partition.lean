import SurveyCube.Partition
import SurveyCube.Proofs.Outcome
import SurveyCube.Proofs.TaskSet

/-!
# Units of work

Partitioning cuts the ids of every task into chunks and packs one unit of work
per chunk.

* The chunks of a list join to the list, and none of them is empty or too long.
* A unit of work differs from its task in its ids alone.
* A partition that succeeds holds the messages of all units of work in order.
-/

namespace SurveyCube

/-! ## Chunks -/

section Chunks

variable {α : Type}

theorem flatten_chunks (further : Nat) (items : List α) :
    (chunks further items).flatten = items := by
  fun_induction chunks further items with
  | case1 => rfl
  | case2 item rest ih =>
      rw [List.flatten_cons, ih, List.cons_append, List.take_append_drop]

/-- A chunk has an item, and at most `further` more. -/
theorem length_of_mem_chunks
    {further : Nat} {items chunk : List α} (member : chunk ∈ chunks further items) :
    0 < chunk.length ∧ chunk.length ≤ further + 1 := by
  fun_induction chunks further items with
  | case1 =>
      simp at member
  | case2 item rest ih =>
      rcases List.mem_cons.mp member with rfl | later
      · rw [List.length_cons, List.length_take]
        omega
      · exact ih later

/-- Only the last chunk may be short. -/
theorem length_of_mem_dropLast_chunks
    {further : Nat} {items chunk : List α} (member : chunk ∈ (chunks further items).dropLast) :
    chunk.length = further + 1 := by
  fun_induction chunks further items with
  | case1 =>
      simp at member
  | case2 item rest ih =>
      by_cases more : chunks further (rest.drop further) = []
      · simp [more] at member
      · rw [List.dropLast_cons_of_ne_nil more] at member
        rcases List.mem_cons.mp member with rfl | later
        · have enough : further < rest.length := by
            by_contra few
            rw [List.drop_eq_nil_of_le (Nat.le_of_not_lt few), chunks] at more
            exact more rfl
          rw [List.length_cons, List.length_take]
          omega
        · exact ih later

theorem sublist_of_mem_chunks
    {further : Nat} {items chunk : List α} (member : chunk ∈ chunks further items) :
    chunk.Sublist items := by
  rw [← flatten_chunks further items]
  exact List.sublist_flatten_of_mem member

end Chunks

/-! ## Units of work -/

/-- Tasks whose ids can be replaced, without a trace of the ones before. -/
class LawfulDivisible (τ : Type) {ι : outParam Type} [Divisible τ ι] : Prop where
  ids_withIds (task : τ) (ids : List ι) : Divisible.ids (Divisible.withIds task ids) = ids
  withIds_withIds (task : τ) (ids later : List ι) :
    Divisible.withIds (Divisible.withIds task ids) later = Divisible.withIds task later
  withIds_ids (task : τ) : Divisible.withIds task (Divisible.ids task) = task

instance : LawfulDivisible SliceTask where
  ids_withIds _ _ := rfl
  withIds_withIds _ _ _ := rfl
  withIds_ids _ := rfl

instance : LawfulDivisible CurtainTask where
  ids_withIds _ _ := rfl
  withIds_withIds _ _ _ := rfl
  withIds_ids _ := rfl

/-- Tasks that read one volume, and whose ids can be replaced without changing
anything else. -/
class VolumeTask (τ : Type) {ι : outParam Type} [Divisible τ ι] where
  base : τ → TaskBase
  base_withIds (task : τ) (ids : List ι) : base (Divisible.withIds task ids) = base task
  ids_withIds (task : τ) (ids : List ι) : Divisible.ids (Divisible.withIds task ids) = ids

instance : VolumeTask SliceTask where
  base := SliceTask.base
  base_withIds _ _ := rfl
  ids_withIds _ _ := rfl

instance : VolumeTask CurtainTask where
  base := CurtainTask.base
  base_withIds _ _ := rfl
  ids_withIds _ _ := rfl

/-- The name of the volume that a task reads. -/
def volumeName {τ ι : Type} [Divisible τ ι] [VolumeTask τ] (task : τ) : String :=
  (VolumeTask.base task).attributeName

section Partition

variable {τ ι : Type} [Divisible τ ι]

theorem mem_units {taskSize : Nat} {task unit : τ} :
    unit ∈ units taskSize task ↔
      ∃ ids ∈ chunks (taskSize - 1) (Divisible.ids task), Divisible.withIds task ids = unit :=
  List.mem_map

/-- The ids of the units of work of a task are the ids of the task. -/
theorem flatMap_ids_units [LawfulDivisible τ] (taskSize : Nat) (task : τ) :
    (units taskSize task).flatMap Divisible.ids = Divisible.ids task := by
  have each (ids : List ι) : Divisible.ids (Divisible.withIds task ids) = ids :=
    LawfulDivisible.ids_withIds task ids
  rw [units, List.flatMap_map]
  simp only [each]
  rw [List.flatMap_id', flatten_chunks]

section Volumes

variable [VolumeTask τ]

theorem volumeName_of_mem_units
    {taskSize : Nat} {task unit : τ} (member : unit ∈ units taskSize task) :
    volumeName unit = volumeName task := by
  obtain ⟨ids, _, rfl⟩ := mem_units.mp member
  rw [volumeName, VolumeTask.base_withIds, volumeName]

theorem filter_units {taskSize : Nat} (task : τ) (name : String) :
    (units taskSize task).filter (fun unit => volumeName unit = name) =
      if volumeName task = name then units taskSize task else [] := by
  split
  · rename_i same
    rw [List.filter_eq_self]
    intro unit member
    rw [volumeName_of_mem_units member]
    exact decide_eq_true same
  · rename_i other
    rw [List.filter_eq_nil_iff]
    intro unit member
    rw [volumeName_of_mem_units member]
    simpa using other

/-- Where tasks read different volumes, the units of work that read the volume
of a task are those of the task. -/
theorem filter_units_of_mem
    {tasks : List τ} {task : τ} (distinct : (tasks.map volumeName).Nodup) (member : task ∈ tasks)
    (taskSize : Nat) :
    (tasks.flatMap (units taskSize)).filter (fun unit => volumeName unit = volumeName task) =
      units taskSize task := by
  rw [List.filter_flatMap]
  simp only [filter_units]
  induction tasks with
  | nil =>
      simp at member
  | cons first rest ih =>
      rw [List.map_cons, List.nodup_cons] at distinct
      rw [List.flatMap_cons]
      rcases List.mem_cons.mp member with rfl | later
      · have none : rest.flatMap (fun other =>
            if volumeName other = volumeName task then units taskSize other else []) = [] := by
          rw [List.flatMap_eq_nil_iff]
          intro other inside
          rw [if_neg]
          intro same
          exact distinct.1 (List.mem_map.mpr ⟨other, inside, same⟩)
        rw [if_pos rfl, none, List.append_nil]
      · have differs : volumeName first ≠ volumeName task := by
          intro same
          exact distinct.1 (List.mem_map.mpr ⟨task, later, same.symm⟩)
        rw [if_neg differs, List.nil_append, ih distinct.2 later]

end Volumes

variable [Serial τ]

/-- A partition that succeeds holds the messages of all units of work in order. -/
theorem partition_holds
    {tasks : List τ} {taskSize : Nat} {set : TaskSet}
    (divided : partition tasks taskSize = .ok set) :
    1 ≤ taskSize ∧ set.Holds none ((tasks.flatMap (units taskSize)).map writeMessage) := by
  unfold partition at divided
  split at divided
  · cases divided
  · rename_i positive
    obtain ⟨total, _, checked⟩ := bind_eq_ok.mp divided
    split at checked
    · cases checked
    · have built := pure_eq_ok.mp checked
      have holds := TaskSet.holds_empty.foldl_append writeMessage (tasks.flatMap (units taskSize))
      rw [built, List.nil_append] at holds
      exact ⟨Nat.le_of_not_lt positive, holds⟩

end Partition

end SurveyCube
