import SurveyCube.Task
import SurveyCube.TaskSet

/-!
# Dividing tasks into units of work

A task lists the fragments it concerns.  Partitioning cuts the list of every
task into chunks of at most `taskSize` entries and packs each chunk together
with the rest of the task, so that every block is a message of its own.

The number of blocks is computed beforehand, in machine words, and has to fit
the length of a packed list.
-/

namespace SurveyCube

/-- A kind of task whose list of ids can be divided. -/
class Divisible (τ : Type) (ι : outParam Type) where
  ids : τ → List ι
  withIds : τ → List ι → τ

instance : Divisible SliceTask FragmentId where
  ids := SliceTask.ids
  withIds task ids := { task with ids }

instance : Divisible CurtainTask Single where
  ids := CurtainTask.ids
  withIds task ids := { task with ids }

def maxListLength : Nat := 2 ^ 32 - 1

/-- The number of chunks of `taskSize` ids that hold so many ids. -/
def taskCount (jobs taskSize : Nat) : Except Fault Nat :=
  if taskSize < 1 then
    .error (.zeroTaskSize taskSize)
  else if jobs + (taskSize - 1) < wordLimit then
    .ok ((jobs + (taskSize - 1)) / taskSize)
  else
    .error (.taskCountOverflow jobs taskSize)

/-- Cut a list into pieces of `further + 1` items, the last of which may be
shorter. -/
def chunks {α : Type} (further : Nat) : List α → List (List α)
  | [] => []
  | item :: rest => (item :: rest.take further) :: chunks further (rest.drop further)
termination_by items => items.length
decreasing_by
  simp only [List.length_drop, List.length_cons]
  omega

section Partition

variable {τ ι : Type} [Divisible τ ι] [Serial τ]

def totalTaskCount (tasks : List τ) (taskSize : Nat) : Except Fault Nat :=
  tasks.foldlM (fun total task => do
    let count ← taskCount (Divisible.ids task).length taskSize
    if total + count < wordLimit then return total + count
    else .error .totalTaskCountOverflow) 0

/-- The units of work of one task. -/
def units (taskSize : Nat) (task : τ) : List τ :=
  (chunks (taskSize - 1) (Divisible.ids task)).map (Divisible.withIds task)

def partition (tasks : List τ) (taskSize : Nat) : Except Fault TaskSet :=
  if taskSize < 1 then
    .error (.zeroTaskSize taskSize)
  else do
    let total ← totalTaskCount tasks taskSize
    if maxListLength < total then
      .error (.tooManyTasks total)
    else
      return (tasks.flatMap (units taskSize)).foldl
        (fun set unit => set.append (writeMessage unit)) .empty

end Partition

end SurveyCube
