import SurveyCube.Proofs.Message
import SurveyCube.Proofs.Schedule
import SurveyCube.Proofs.TaskCount

/-!
# A partition divides every task

`Divides` says when units of work are a task cut into pieces of one size: they differ
from the task in their ids alone, and their ids are those of the task, with only the
last piece short.

* The blocks of a partition are the messages of such pieces, task after task.
* Messages that fit are read back, so a partition can be undone.  `Readable` is what
  this takes of a kind of task.
* The task size decides where a task is cut, and nothing else.
-/

namespace SurveyCube

/-! ## Readable tasks -/

/-- Tasks that are read back from their messages, as far as they fit. -/
class Readable (τ : Type) {ι : outParam Type} [Divisible τ ι] [Serial τ] where
  fits : τ → Prop
  fits_withIds {task : τ} {ids : List ι} : fits task → ids.Sublist (Divisible.ids task) →
    fits (Divisible.withIds task ids)
  readMessage_eq {task : τ} : fits task → readMessage τ (writeMessage task) = .ok (task, [])

theorem packable_of_sublist {α : Type} [Serial α] {values others : List α}
    (part : values.Sublist others) (short : packable others = true) : packable values = true := by
  rw [packable_list_iff] at *
  exact ⟨Nat.lt_of_le_of_lt part.length_le short.1,
    fun value inside => short.2 value (part.subset inside)⟩

theorem SliceTask.packable_iff {task : SliceTask} :
    packable task = true ↔ packable task.base = true ∧ packable task.ids = true := by
  have names : ∀ name ∈ ["base", "dim", "idx", "ids"], Datum.isShortText name = true := by
    decide
  have few : 4 < Datum.lengthLimit := by decide
  simp only [List.forall_mem_cons] at names
  change Datum.isShort (.record _) = true ↔ _
  simp [packable, Datum.isShort, Datum.isShortFields, names, few]

theorem CurtainTask.packable_iff {task : CurtainTask} :
    packable task = true ↔ packable task.base = true ∧ packable task.ids = true := by
  have names : ∀ name ∈ ["base", "ids"], Datum.isShortText name = true := by
    decide
  have few : 2 < Datum.lengthLimit := by decide
  simp only [List.forall_mem_cons] at names
  change Datum.isShort (.record _) = true ↔ _
  simp [packable, Datum.isShort, Datum.isShortFields, names, few]

theorem readMessage_of_fits {α : Type} [Serial α] [Words α] [LawfulSerial α] {value : α}
    (fits : fitWords value = true ∧ packable value = true)
    (shallow : LawfulSerial.levels α ≤ Msgpack.maxDepth) :
    readMessage α (writeMessage value) = .ok (value, []) := by
  have read := readMessage_writeMessage fits.1 fits.2 shallow []
  rwa [List.append_nil] at read

instance : Readable SliceTask where
  fits task := fitWords task = true ∧ packable task = true
  fits_withIds fits part := by
    obtain ⟨base, ids⟩ := SliceTask.packable_iff.mp fits.2
    constructor
    · exact LawfulSchedulable.fitWords_withIds (α := SliceQuery) fits.1
        fun _ inside => part.subset inside
    · exact SliceTask.packable_iff.mpr ⟨base, packable_of_sublist part ids⟩
  readMessage_eq fits := readMessage_of_fits fits (by decide)

instance : Readable CurtainTask where
  fits task := fitWords task = true ∧ packable task = true
  fits_withIds fits part := by
    obtain ⟨base, ids⟩ := CurtainTask.packable_iff.mp fits.2
    constructor
    · exact LawfulSchedulable.fitWords_withIds (α := CurtainQuery) fits.1
        fun _ inside => part.subset inside
    · exact CurtainTask.packable_iff.mpr ⟨base, packable_of_sublist part ids⟩
  readMessage_eq fits := readMessage_of_fits fits (by decide)

/-! ## Divided tasks -/

section Divided

variable {τ ι : Type} [Divisible τ ι]

/-- All of a task but its ids. -/
def description (task : τ) : τ :=
  Divisible.withIds task []

/-- Units of work are a task cut into pieces of one size, the last of which may be
shorter. -/
structure Divides (taskSize : Nat) (task : τ) (pieces : List τ) : Prop where
  unchanged : ∀ unit ∈ pieces, unit = Divisible.withIds task (Divisible.ids unit)
  joined : pieces.flatMap Divisible.ids = Divisible.ids task
  full : ∀ unit ∈ pieces.dropLast, (Divisible.ids unit).length = taskSize
  bounded : ∀ unit ∈ pieces,
    1 ≤ (Divisible.ids unit).length ∧ (Divisible.ids unit).length ≤ taskSize
  idle : Divisible.ids task = [] → pieces = []

/-- Units of work do the same, however they are cut. -/
structure SameWork (pieces others : List τ) : Prop where
  ids : pieces.flatMap Divisible.ids = others.flatMap Divisible.ids
  described : ∀ unit ∈ pieces, ∀ other ∈ others, description unit = description other

variable [LawfulDivisible τ]

theorem units_divide {taskSize : Nat} (positive : 1 ≤ taskSize) (task : τ) :
    Divides taskSize task (units taskSize task) := by
  have ids (chunk : List ι) : Divisible.ids (Divisible.withIds task chunk) = chunk :=
    LawfulDivisible.ids_withIds task chunk
  have size : taskSize - 1 + 1 = taskSize := Nat.sub_add_cancel positive
  constructor
  · intro unit member
    obtain ⟨chunk, _, rfl⟩ := mem_units.mp member
    rw [ids]
  · exact flatMap_ids_units taskSize task
  · intro unit member
    rw [units, ← List.map_dropLast] at member
    obtain ⟨chunk, inside, rfl⟩ := List.mem_map.mp member
    rw [ids, length_of_mem_dropLast_chunks inside, size]
  · intro unit member
    obtain ⟨chunk, inside, rfl⟩ := mem_units.mp member
    rw [ids]
    rw [← size]
    exact length_of_mem_chunks inside
  · intro none
    rw [units, none, chunks, List.map_nil]

theorem Divides.description_eq {taskSize : Nat} {task unit : τ} {pieces : List τ}
    (divides : Divides taskSize task pieces) (member : unit ∈ pieces) :
    description unit = description task := by
  rw [divides.unchanged unit member, description, LawfulDivisible.withIds_withIds, description]

/-- Two ways of cutting a task give the same work. -/
theorem Divides.sameWork {taskSize otherSize : Nat} {task : τ} {pieces others : List τ}
    (divides : Divides taskSize task pieces) (dividesToo : Divides otherSize task others) :
    SameWork pieces others where
  ids := divides.joined.trans dividesToo.joined.symm
  described _ here _ there :=
    (divides.description_eq here).trans (dividesToo.description_eq there).symm

/-! ## Main result -/

variable [Serial τ] [Readable τ]

/-- The blocks of a task set are the messages of divided tasks, task after task. -/
structure HoldsDivided (taskSize : Nat) (tasks : List τ) (set : TaskSet)
    (divisions : List (List τ)) : Prop where
  each : List.Forall₂ (Divides taskSize) tasks divisions
  blocks : set.blocks = divisions.flatten.map writeMessage
  /-- A block is read back if the unit of work fits. -/
  decoded : List.Forall₂
    (fun block unit => Readable.fits unit → readMessage τ block = .ok (unit, []))
    set.blocks divisions.flatten
  /-- Units of work fit if their tasks do. -/
  fits : (∀ task ∈ tasks, Readable.fits task) → ∀ unit ∈ divisions.flatten, Readable.fits unit
  count : set.count = blockCount taskSize tasks

theorem holdsDivided_of_partition {tasks : List τ} {taskSize : Nat} {set : TaskSet}
    (divided : partition tasks taskSize = .ok set) :
    HoldsDivided taskSize tasks set (tasks.map (units taskSize)) := by
  obtain ⟨positive, holds⟩ := partition_holds divided
  have blocks := holds.blocks_eq
  rw [List.flatMap_def] at blocks
  refine ⟨?_, blocks, ?_, ?_, count_partition divided⟩
  · rw [List.forall₂_map_right_iff, List.forall₂_same]
    intro task _
    exact units_divide positive task
  · rw [blocks, List.forall₂_map_left_iff, List.forall₂_same]
    intro unit _ fits
    exact Readable.readMessage_eq fits
  · intro fits unit member
    rw [← List.flatMap_def] at member
    obtain ⟨task, listed, inside⟩ := List.mem_flatMap.mp member
    obtain ⟨chunk, cut, rfl⟩ := mem_units.mp inside
    exact Readable.fits_withIds (fits task listed) (sublist_of_mem_chunks cut)

/-- A partition that succeeds holds every task, divided into pieces of the task size.
Another task size that succeeds divides the same work. -/
theorem partition_divides_tasks
    (tasks : List τ) (taskSize : Nat) (set : TaskSet)
    (divided : partition tasks taskSize = .ok set) :
    ∃ divisions, HoldsDivided taskSize tasks set divisions ∧
      ∀ otherSize otherSet, partition tasks otherSize = .ok otherSet →
        ∃ others, HoldsDivided otherSize tasks otherSet others ∧
          List.Forall₂ SameWork divisions others := by
  refine ⟨_, holdsDivided_of_partition divided, ?_⟩
  intro otherSize otherSet dividedToo
  refine ⟨_, holdsDivided_of_partition dividedToo, ?_⟩
  have positive := (partition_holds divided).1
  have positiveToo := (partition_holds dividedToo).1
  rw [List.forall₂_map_left_iff, List.forall₂_map_right_iff, List.forall₂_same]
  intro task _
  exact (units_divide positive task).sameWork (units_divide positiveToo task)

end Divided

/-- The tasks of the small curtain fit, and are divided by three ids or one by one. -/
theorem smallTasks_divided :
    ∃ set divisions otherSet others,
      partition smallTasks 3 = .ok set ∧ HoldsDivided 3 smallTasks set divisions ∧
      partition smallTasks 1 = .ok otherSet ∧ HoldsDivided 1 smallTasks otherSet others ∧
      List.Forall₂ SameWork divisions others ∧
      ∀ unit ∈ divisions.flatten, readMessage CurtainTask (writeMessage unit) = .ok (unit, []) := by
  have few : (partition smallTasks 3).map TaskSet.count = .ok 3 := by decide +kernel
  have many : (partition smallTasks 1).map TaskSet.count = .ok 7 := by decide +kernel
  have fit : ∀ task ∈ smallTasks, fitWords task = true ∧ packable task = true := by
    decide +kernel
  obtain ⟨set, divided, _⟩ := map_eq_ok.mp few
  obtain ⟨otherSet, dividedToo, _⟩ := map_eq_ok.mp many
  obtain ⟨divisions, holds, again⟩ := partition_divides_tasks smallTasks 3 set divided
  obtain ⟨others, holdsToo, same⟩ := again 1 otherSet dividedToo
  refine ⟨set, divisions, otherSet, others, divided, holds, dividedToo, holdsToo, same, ?_⟩
  intro unit member
  exact Readable.readMessage_eq (holds.fits fit unit member)

end SurveyCube
