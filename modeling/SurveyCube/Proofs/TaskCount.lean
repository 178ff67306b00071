import Mathlib.Algebra.Order.Floor.Div
import SurveyCube.Proofs.Need
import SurveyCube.Proofs.Partition

/-!
# The number of units of work

The ids of a task are cut into as many chunks as their number divided by the
task size, rounded up.  `blockCount` is the number of all chunks.

A partition needs a positive task size, and it needs the count to come out: the
padded number of ids of every task has to fit a machine word, and the number of
blocks the length of a packed list.  Every block is then a unit of work.
-/

namespace SurveyCube

theorem length_chunks {α : Type} (further : Nat) (items : List α) :
    (chunks further items).length = items.length ⌈/⌉ (further + 1) := by
  have positive : 0 < further + 1 := Nat.succ_pos further
  rw [Nat.ceilDiv_eq_add_pred_div]
  fun_induction chunks further items with
  | case1 =>
      exact (Nat.div_eq_of_lt (by simp)).symm
  | case2 item rest ih =>
      rw [List.length_cons, ih, List.length_drop, List.length_cons]
      by_cases few : rest.length ≤ further
      · have one : rest.length + 1 + (further + 1) - 1 = rest.length + (further + 1) := by omega
        have none : rest.length - further + (further + 1) - 1 < further + 1 := by omega
        rw [one, Nat.add_div_right _ positive, Nat.div_eq_of_lt none,
          Nat.div_eq_of_lt (Nat.lt_succ_of_le few)]
      · have more : rest.length + 1 + (further + 1) - 1 =
            rest.length - further + (further + 1) - 1 + (further + 1) := by omega
        rw [more, Nat.add_div_right _ positive]

section Counts

variable {τ ι : Type} [Divisible τ ι] {taskSize : Nat} {tasks : List τ}

/-- The number of chunks of all tasks. -/
def blockCount (taskSize : Nat) (tasks : List τ) : Nat :=
  (tasks.map fun task => (Divisible.ids task).length ⌈/⌉ taskSize).sum

/-- The number of blocks comes out in machine words, and fits the length of a
packed list. -/
structure Countable (taskSize : Nat) (tasks : List τ) : Prop where
  padded : ∀ task ∈ tasks, (Divisible.ids task).length + (taskSize - 1) < wordLimit
  total : blockCount taskSize tasks ≤ maxListLength

theorem length_units (positive : 1 ≤ taskSize) (task : τ) :
    (units taskSize task).length = (Divisible.ids task).length ⌈/⌉ taskSize := by
  rw [units, List.length_map, length_chunks, Nat.sub_add_cancel positive]

theorem length_flatMap_units (positive : 1 ≤ taskSize) (tasks : List τ) :
    (tasks.flatMap (units taskSize)).length = blockCount taskSize tasks := by
  rw [List.length_flatMap, blockCount]
  simp only [length_units positive]

/-! ## Counting -/

/-- One step of counting: the blocks of a task are added to those before. -/
def addBlocks (taskSize total : Nat) (task : τ) : Except Fault Nat := do
  let count ← taskCount (Divisible.ids task).length taskSize
  if total + count < wordLimit then return total + count
  else .error .totalTaskCountOverflow

theorem taskCount_eq_ok {jobs : Nat} (positive : 1 ≤ taskSize)
    (padded : jobs + (taskSize - 1) < wordLimit) :
    taskCount jobs taskSize = .ok (jobs ⌈/⌉ taskSize) := by
  rw [taskCount, if_neg (Nat.not_lt.mpr positive), if_pos padded, Nat.ceilDiv_eq_add_pred_div,
    Nat.add_sub_assoc positive]

theorem addBlocks_eq_ok {total : Nat} {task : τ} (positive : 1 ≤ taskSize)
    (padded : (Divisible.ids task).length + (taskSize - 1) < wordLimit)
    (fits : total + (Divisible.ids task).length ⌈/⌉ taskSize < wordLimit) :
    addBlocks taskSize total task = .ok (total + (Divisible.ids task).length ⌈/⌉ taskSize) := by
  have counted := taskCount_eq_ok positive padded
  refine bind_eq_ok.mpr ⟨_, counted, ?_⟩
  rw [if_pos fits]
  rfl

theorem addBlocks_overflows {total : Nat} {task : τ} (positive : 1 ≤ taskSize)
    (excess : ¬ ((Divisible.ids task).length + (taskSize - 1) < wordLimit ∧
      total + (Divisible.ids task).length ⌈/⌉ taskSize < wordLimit)) :
    ∃ fault, addBlocks taskSize total task = .error fault ∧ fault.kind = .overflow := by
  by_cases padded : (Divisible.ids task).length + (taskSize - 1) < wordLimit
  · have counted := taskCount_eq_ok positive padded
    have large : ¬ total + (Divisible.ids task).length ⌈/⌉ taskSize < wordLimit :=
      fun fits => excess ⟨padded, fits⟩
    refine ⟨.totalTaskCountOverflow, bind_eq_error.mpr (Or.inr ⟨_, counted, ?_⟩), rfl⟩
    rw [if_neg large]
  · refine ⟨.taskCountOverflow (Divisible.ids task).length taskSize, ?_, rfl⟩
    refine bind_eq_error.mpr (Or.inl ?_)
    rw [taskCount, if_neg (Nat.not_lt.mpr positive), if_neg padded]

theorem blockCount_cons (task : τ) (rest : List τ) :
    blockCount taskSize (task :: rest) =
      (Divisible.ids task).length ⌈/⌉ taskSize + blockCount taskSize rest := by
  rw [blockCount, List.map_cons, List.sum_cons, blockCount]

/-- Adding up the blocks of tasks comes out if every padded number and the sum
are machine words. -/
theorem foldlM_addBlocks_eq_ok {total : Nat} (positive : 1 ≤ taskSize)
    (padded : ∀ task ∈ tasks, (Divisible.ids task).length + (taskSize - 1) < wordLimit)
    (fits : total + blockCount taskSize tasks < wordLimit) :
    tasks.foldlM (addBlocks taskSize) total = .ok (total + blockCount taskSize tasks) := by
  induction tasks generalizing total with
  | nil => rfl
  | cons task rest ih =>
      rw [List.forall_mem_cons] at padded
      rw [blockCount_cons, ← Nat.add_assoc] at fits ⊢
      have first : total + (Divisible.ids task).length ⌈/⌉ taskSize < wordLimit :=
        Nat.lt_of_le_of_lt (Nat.le_add_right _ _) fits
      have here := addBlocks_eq_ok positive padded.1 first
      rw [List.foldlM_cons]
      exact bind_eq_ok.mpr ⟨_, here, ih padded.2 fits⟩

theorem foldlM_addBlocks_overflows {total : Nat} (positive : 1 ≤ taskSize)
    (small : total < wordLimit)
    (excess : ¬ ((∀ task ∈ tasks, (Divisible.ids task).length + (taskSize - 1) < wordLimit) ∧
      total + blockCount taskSize tasks < wordLimit)) :
    ∃ fault, tasks.foldlM (addBlocks taskSize) total = .error fault ∧ fault.kind = .overflow := by
  induction tasks generalizing total with
  | nil =>
      refine absurd ⟨by simp, ?_⟩ excess
      exact small
  | cons task rest ih =>
      rw [List.forall_mem_cons, blockCount_cons, ← Nat.add_assoc] at excess
      rw [List.foldlM_cons]
      by_cases here : (Divisible.ids task).length + (taskSize - 1) < wordLimit ∧
          total + (Divisible.ids task).length ⌈/⌉ taskSize < wordLimit
      · obtain ⟨padded, fits⟩ := here
        obtain ⟨fault, stopped, kind⟩ := ih fits fun later => excess ⟨⟨padded, later.1⟩, later.2⟩
        have counted := addBlocks_eq_ok positive padded fits
        exact ⟨fault, bind_eq_error.mpr (Or.inr ⟨_, counted, stopped⟩), kind⟩
      · obtain ⟨fault, stopped, kind⟩ := addBlocks_overflows positive here
        exact ⟨fault, bind_eq_error.mpr (Or.inl stopped), kind⟩

/-! ## Partitions -/

variable [Serial τ]

theorem maxListLength_lt_wordLimit : maxListLength < wordLimit := by
  decide

/-- What a partition needs. -/
def partitionNeeds (taskSize : Nat) (tasks : List τ) : List Need := [
  .ofKind (1 ≤ taskSize) .invalidArgument,
  .ofKind (Countable taskSize tasks) .overflow]

theorem exists_partition (positive : 1 ≤ taskSize) (countable : Countable taskSize tasks) :
    ∃ set, partition tasks taskSize = .ok set := by
  have fits : 0 + blockCount taskSize tasks < wordLimit := by
    rw [Nat.zero_add]
    exact Nat.lt_of_le_of_lt countable.total maxListLength_lt_wordLimit
  have counted : totalTaskCount tasks taskSize = .ok (0 + blockCount taskSize tasks) :=
    foldlM_addBlocks_eq_ok positive countable.padded fits
  rw [partition, if_neg (Nat.not_lt.mpr positive), counted, ok_bind, Nat.zero_add,
    if_neg (Nat.not_lt.mpr countable.total)]
  exact ⟨_, rfl⟩

theorem partition_overflows (positive : 1 ≤ taskSize) (uncountable : ¬ Countable taskSize tasks) :
    ∃ fault, partition tasks taskSize = .error fault ∧ fault.kind = .overflow := by
  rw [partition, if_neg (Nat.not_lt.mpr positive)]
  by_cases comesOut :
      (∀ task ∈ tasks, (Divisible.ids task).length + (taskSize - 1) < wordLimit) ∧
        0 + blockCount taskSize tasks < wordLimit
  · have counted : totalTaskCount tasks taskSize = .ok (0 + blockCount taskSize tasks) :=
      foldlM_addBlocks_eq_ok positive comesOut.1 comesOut.2
    have tooMany : maxListLength < 0 + blockCount taskSize tasks := by
      rw [Nat.zero_add]
      exact Nat.lt_of_not_le fun few => uncountable ⟨comesOut.1, few⟩
    rw [counted, ok_bind, if_pos tooMany]
    exact ⟨_, rfl, rfl⟩
  · obtain ⟨fault, stopped, kind⟩ :=
      foldlM_addBlocks_overflows positive (show 0 < wordLimit by decide) comesOut
    have uncounted : totalTaskCount tasks taskSize = .error fault := stopped
    rw [uncounted, error_bind]
    exact ⟨fault, rfl, kind⟩

theorem partition_governed (taskSize : Nat) (tasks : List τ) :
    Governs (partitionNeeds taskSize tasks) (partition tasks taskSize) := by
  by_cases positive : 1 ≤ taskSize
  · have count : Governs [.ofKind (Countable taskSize tasks) .overflow]
        (partition tasks taskSize) :=
      Governs.of_need (exists_partition positive) (partition_overflows positive)
    exact count.after positive
  · apply Governs.of_unmet positive
    refine ⟨.zeroTaskSize taskSize, ?_, rfl⟩
    rw [partition, if_pos (Nat.lt_of_not_le positive)]

/-- A partition has as many blocks as were counted. -/
theorem count_partition {set : TaskSet} (divided : partition tasks taskSize = .ok set) :
    set.count = blockCount taskSize tasks := by
  obtain ⟨positive, holds⟩ := partition_holds divided
  rw [holds.count_eq, List.length_map, length_flatMap_units positive]

end Counts

end SurveyCube
