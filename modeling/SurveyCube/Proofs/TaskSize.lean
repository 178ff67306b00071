import Mathlib.Algebra.Order.BigOperators.Group.List
import SurveyCube.Config
import SurveyCube.Proofs.Schedule
import SurveyCube.Proofs.TaskCount

/-!
# The choice of the task size

A larger task size cuts tasks into fewer blocks, so it can only help a response to fit
the length of a packed list.  It has a price: the number of ids of every task is padded
by what one task may hold beyond its first id, and the sum has to fit a machine word.

* A partition overflows for one of these two reasons, and fails in no other way.
* Going on to a larger size, the number of blocks does not grow, and only the padding
  can make a partition fail that succeeded before.
* Under the largest size that can be configured, tasks of two ids fail already.
-/

namespace SurveyCube

section TaskSize

variable {τ ι : Type} [Divisible τ ι] {taskSize larger : Nat} {tasks : List τ}

/-- A larger task size gives no more blocks. -/
theorem blockCount_antitone (positive : 1 ≤ taskSize) (enlarged : taskSize ≤ larger)
    (tasks : List τ) : blockCount larger tasks ≤ blockCount taskSize tasks := by
  apply List.sum_le_sum
  intro task _
  have room : (Divisible.ids task).length ≤
      taskSize * ((Divisible.ids task).length ⌈/⌉ taskSize) :=
    (ceilDiv_le_iff_le_mul positive).mp (Nat.le_refl _)
  have more : (Divisible.ids task).length ≤
      larger * ((Divisible.ids task).length ⌈/⌉ taskSize) :=
    Nat.le_trans room (Nat.mul_le_mul_right _ enlarged)
  exact (ceilDiv_le_iff_le_mul (Nat.le_trans positive enlarged)).mpr more

theorem not_countable_iff :
    ¬ Countable taskSize tasks ↔
      maxListLength < blockCount taskSize tasks ∨
        ∃ task ∈ tasks, wordLimit ≤ (Divisible.ids task).length + (taskSize - 1) := by
  constructor
  · intro uncountable
    by_contra! fine
    obtain ⟨total, padded⟩ := fine
    exact uncountable ⟨padded, total⟩
  · rintro (many | ⟨task, listed, long⟩) ⟨padded, total⟩
    · exact absurd total (Nat.not_le.mpr many)
    · exact absurd (padded task listed) (Nat.not_lt.mpr long)

variable [Serial τ]

theorem exists_partition_iff (positive : 1 ≤ taskSize) :
    (∃ set, partition tasks taskSize = .ok set) ↔ Countable taskSize tasks := by
  rw [(partition_governed taskSize tasks).succeeds_iff, partitionNeeds, List.forall_mem_cons,
    List.forall_mem_singleton]
  exact and_iff_right positive

theorem kind_of_partition_eq_error {fault : Fault} (positive : 1 ≤ taskSize)
    (failed : partition tasks taskSize = .error fault) :
    fault.kind = .overflow ∧ ¬ Countable taskSize tasks := by
  rcases (partition_governed taskSize tasks).blames_first fault failed with
    ⟨zero, _⟩ | ⟨_, ⟨uncountable, kind⟩ | ⟨_, impossible⟩⟩
  · exact absurd positive zero
  · exact ⟨kind, uncountable⟩
  · exact absurd impossible id

/-- Where one size succeeds, a larger one does if the padded numbers of ids are words. -/
theorem exists_partition_larger_iff
    {set : TaskSet} (divided : partition tasks taskSize = .ok set) (enlarged : taskSize ≤ larger) :
    (∃ other, partition tasks larger = .ok other) ↔
      ∀ task ∈ tasks, (Divisible.ids task).length + (larger - 1) < wordLimit := by
  have positive := (partition_holds divided).1
  have few := ((exists_partition_iff positive).mp ⟨set, divided⟩).total
  rw [exists_partition_iff (Nat.le_trans positive enlarged)]
  constructor
  · intro countable
    exact countable.padded
  · intro padded
    exact ⟨padded, Nat.le_trans (blockCount_antitone positive enlarged tasks) few⟩

/-! ## Main result -/

/-- A partition into tasks of a positive size overflows exactly if there are too many
blocks for a packed list, or if the padded number of ids of a task is not a word.  A
larger size does not give more blocks, and fails only for the padding. -/
theorem partition_by_taskSize
    (tasks : List τ) (taskSize : Nat) (positive : 1 ≤ taskSize) (word : taskSize < wordLimit) :
    ((∃ fault, partition tasks taskSize = .error fault ∧ fault.kind = .overflow) ↔
      maxListLength < blockCount taskSize tasks ∨
        ∃ task ∈ tasks, wordLimit ≤ (Divisible.ids task).length + (taskSize - 1)) ∧
    (∀ fault, partition tasks taskSize = .error fault → fault.kind = .overflow) ∧
    ∀ set, partition tasks taskSize = .ok set →
      (∀ larger, taskSize ≤ larger →
        ((∃ other, partition tasks larger = .ok other) ↔
          ∀ task ∈ tasks, (Divisible.ids task).length + (larger - 1) < wordLimit) ∧
        ∀ other, partition tasks larger = .ok other → other.count ≤ set.count) ∧
      ((∃ other, partition tasks (wordLimit - 1) = .ok other) ↔
        ∀ task ∈ tasks, (Divisible.ids task).length ≤ 1) := by
  refine ⟨?_, ?_, ?_⟩
  · rw [← not_countable_iff]
    constructor
    · rintro ⟨fault, failed, _⟩
      exact (kind_of_partition_eq_error positive failed).2
    · exact partition_overflows positive
  · intro fault failed
    exact (kind_of_partition_eq_error positive failed).1
  · intro set divided
    constructor
    · intro larger enlarged
      refine ⟨exists_partition_larger_iff divided enlarged, ?_⟩
      intro other dividedToo
      rw [count_partition divided, count_partition dividedToo]
      exact blockCount_antitone positive enlarged tasks
    · have single (task : τ) : (Divisible.ids task).length + (wordLimit - 1 - 1) < wordLimit ↔
          (Divisible.ids task).length ≤ 1 := by
        have large : 1 < wordLimit := by decide
        omega
      rw [exists_partition_larger_iff divided (Nat.le_sub_one_of_lt word)]
      simp only [single]

end TaskSize

/-- The tasks of the small curtain make three blocks of three ids, no more of a thousand,
and none of the largest size. -/
theorem smallTasks_by_taskSize :
    ∃ set other,
      partition smallTasks 3 = .ok set ∧ partition smallTasks 1000 = .ok other ∧
      other.count ≤ set.count ∧
      ¬ ∃ largest, partition smallTasks (wordLimit - 1) = .ok largest := by
  have some : (partition smallTasks 3).map TaskSet.count = .ok 3 := by decide +kernel
  obtain ⟨set, divided, _⟩ := map_eq_ok.mp some
  obtain ⟨_, _, others⟩ := partition_by_taskSize smallTasks 3 (by decide) (by decide)
  obtain ⟨larger, largest⟩ := others set divided
  obtain ⟨succeeds, fewer⟩ := larger 1000 (by decide)
  obtain ⟨other, dividedToo⟩ := succeeds.mpr (by decide)
  refine ⟨set, other, divided, dividedToo, fewer other dividedToo, ?_⟩
  rw [largest]
  decide

/-- The largest size that can be configured fails on tasks that would make two blocks,
and that a size of three divides. -/
theorem largestTaskSize_refuses_two_blocks :
    SchedulerConfig.ofSetting "18446744073709551615" = .ok { taskSize := wordLimit - 1 } ∧
    ({ taskSize := wordLimit - 1 } : SchedulerConfig).validate = .ok () ∧
    (partition smallTasks 3).map TaskSet.count = .ok 3 ∧
    blockCount (wordLimit - 1) smallTasks = 2 ∧
    partition smallTasks (wordLimit - 1) = .error (.taskCountOverflow 4 (wordLimit - 1)) ∧
    ¬ ((∃ fault, partition smallTasks (wordLimit - 1) = .error fault ∧ fault.kind = .overflow) ↔
      maxListLength < blockCount (wordLimit - 1) smallTasks) := by
  have setting : SchedulerConfig.ofSetting "18446744073709551615" =
      .ok { taskSize := wordLimit - 1 } := by
    rfl
  have count : blockCount (wordLimit - 1) smallTasks = 2 := by decide
  have failed : partition smallTasks (wordLimit - 1) =
      .error (.taskCountOverflow 4 (wordLimit - 1)) := by
    decide +kernel
  refine ⟨setting, by decide, by decide +kernel, count, failed, ?_⟩
  intro claimed
  have many := claimed.mp ⟨_, failed, rfl⟩
  rw [count] at many
  exact absurd many (by decide)

end SurveyCube
