import SurveyCube.TaskSet

/-!
# A task set is a list of blocks

The blocks of a task set lie back to back in one buffer.  `TaskSet.Holds` ties
the buffer and the positions in it to the list of blocks and the envelope that
a task set stands for.

* The empty set holds no block, and appending a block or setting the envelope
  changes what is held in the same way; each is one step of a run.
* Everything that is read from a task set is then read from the list.
-/

namespace SurveyCube.TaskSet

/-- The positions where blocks end that are laid out from a position on. -/
def stops (start : Nat) : List Bytes → List Nat
  | [] => []
  | block :: rest => (start + block.length) :: stops (start + block.length) rest

/-- The task set stands for an envelope and blocks. -/
structure Holds (set : TaskSet) (envelope : Option Bytes) (blocks : List Bytes) : Prop where
  buffer : set.buffer.toList = blocks.flatten
  ends : set.ends.toList = stops 0 blocks
  envelope : set.envelope = envelope

theorem length_stops (start : Nat) (blocks : List Bytes) :
    (stops start blocks).length = blocks.length := by
  induction blocks generalizing start with
  | nil => rfl
  | cons block rest ih =>
      rw [stops, List.length_cons, List.length_cons, ih]

theorem stops_append (start : Nat) (blocks : List Bytes) (block : Bytes) :
    stops start (blocks ++ [block]) =
      stops start blocks ++ [start + blocks.flatten.length + block.length] := by
  induction blocks generalizing start with
  | nil =>
      simp [stops]
  | cons first rest ih =>
      simp only [List.cons_append, stops, ih, List.flatten_cons, List.length_append]
      rw [Nat.add_assoc start]

/-- A block ends where it and those before it have been laid out. -/
theorem stops_getElem? (start : Nat) (blocks : List Bytes) {i : Nat} (inside : i < blocks.length) :
    (stops start blocks)[i]? = some (start + (blocks.take (i + 1)).flatten.length) := by
  induction blocks generalizing start i with
  | nil =>
      simp at inside
  | cons block rest ih =>
      cases i with
      | zero =>
          simp [stops]
      | succ i =>
          have later : i < rest.length := by
            simpa using inside
          rw [stops, List.getElem?_cons_succ, ih _ later, List.take_succ_cons,
            List.flatten_cons, List.length_append, Nat.add_assoc]

theorem filterMap_getElem?_range (blocks : List Bytes) :
    ((List.range blocks.length).filterMap fun i => blocks[i]?) = blocks := by
  induction blocks with
  | nil => rfl
  | cons block rest ih =>
      rw [List.length_cons, List.range_succ_eq_map, List.filterMap_cons, List.filterMap_map]
      exact congrArg (block :: ·) ih

/-! ## Runs of operations -/

theorem holds_empty : empty.Holds none [] :=
  ⟨rfl, rfl, rfl⟩

namespace Holds

variable {set : TaskSet} {envelope : Option Bytes} {blocks : List Bytes}

theorem append (holds : set.Holds envelope blocks) (block : Bytes) :
    (set.append block).Holds envelope (blocks ++ [block]) where
  buffer := by
    have laid := holds.buffer
    simp [TaskSet.append, laid]
  ends := by
    have size : set.buffer.size = blocks.flatten.length := by
      rw [← holds.buffer, Array.length_toList]
    rw [stops_append, ← holds.ends, Nat.zero_add, ← size]
    exact Array.toList_push
  envelope := holds.envelope

theorem setEnvelope (holds : set.Holds envelope blocks) (front : Bytes) :
    (set.setEnvelope front).Holds (some front) blocks :=
  ⟨holds.buffer, holds.ends, rfl⟩

theorem foldl_append {α : Type} (holds : set.Holds envelope blocks) (block : α → Bytes)
    (items : List α) :
    (items.foldl (fun set item => set.append (block item)) set).Holds envelope
      (blocks ++ items.map block) := by
  induction items generalizing set blocks with
  | nil =>
      simpa using holds
  | cons item rest ih =>
      have later := ih (holds.append (block item))
      rwa [List.append_assoc] at later

/-! ## What is read from a task set -/

theorem count_eq (holds : set.Holds envelope blocks) : set.count = blocks.length := by
  rw [count, ← Array.length_toList, holds.ends, length_stops]

theorem slice_eq (holds : set.Holds envelope blocks) (start stop : Nat) :
    set.slice start stop = (blocks.flatten.take stop).drop start := by
  rw [slice, Array.toList_extract, holds.buffer, List.extract_eq_drop_take']

/-- Between where the first `i` blocks end and where the next one ends lies that block. -/
theorem slice_block (holds : set.Holds envelope blocks) {i : Nat} (inside : i < blocks.length) :
    set.slice (blocks.take i).flatten.length (blocks.take (i + 1)).flatten.length =
      blocks[i] := by
  have front : blocks.flatten.take (blocks.take (i + 1)).flatten.length =
      (blocks.take (i + 1)).flatten := by
    have divided : blocks.flatten =
        (blocks.take (i + 1)).flatten ++ (blocks.drop (i + 1)).flatten := by
      rw [← List.flatten_append, List.take_append_drop]
    rw [divided, List.take_left]
  rw [holds.slice_eq, front, List.take_add_one, List.getElem?_eq_getElem inside,
    Option.toList_some, List.flatten_append, List.drop_left]
  simp

theorem ends_getElem? (holds : set.Holds envelope blocks) (i : Nat) :
    set.ends[i]? = (stops 0 blocks)[i]? := by
  rw [← Array.getElem?_toList, holds.ends]

theorem get?_eq (holds : set.Holds envelope blocks) (i : Nat) : set.get? i = blocks[i]? := by
  rw [get?, holds.ends_getElem? i]
  by_cases inside : i < blocks.length
  · have stop := stops_getElem? 0 blocks inside
    have start : (if i = 0 then 0 else set.ends[i - 1]?.getD 0) =
        (blocks.take i).flatten.length := by
      cases i with
      | zero => rfl
      | succ i =>
          have before := stops_getElem? 0 blocks (Nat.lt_of_succ_lt inside)
          rw [if_neg (Nat.succ_ne_zero i), Nat.add_sub_cancel, holds.ends_getElem?, before,
            Option.getD_some, Nat.zero_add]
    rw [stop, Option.map_some, start, Nat.zero_add, holds.slice_block inside,
      List.getElem?_eq_getElem inside]
  · have past : (stops 0 blocks)[i]? = none := by
      rw [List.getElem?_eq_none_iff, length_stops]
      omega
    rw [past, List.getElem?_eq_none (by omega)]
    rfl

theorem blocks_eq (holds : set.Holds envelope blocks) : set.blocks = blocks := by
  have gets : set.get? = fun i => blocks[i]? := funext holds.get?_eq
  rw [TaskSet.blocks, holds.count_eq, gets]
  exact filterMap_getElem?_range blocks

theorem stream_eq (holds : set.Holds envelope blocks) :
    set.stream = envelope.getD [] ++ blocks.flatten := by
  rw [stream, holds.buffer, holds.envelope]

theorem isEmpty_iff (holds : set.Holds envelope blocks) : set.isEmpty = true ↔ blocks = [] := by
  rw [isEmpty, Array.isEmpty_iff_size_eq_zero, ← List.length_eq_zero_iff, ← holds.count_eq, count]

theorem byteLength_eq (holds : set.Holds envelope blocks) :
    set.byteLength = blocks.flatten.length := by
  rw [byteLength, ← Array.length_toList, holds.buffer]

/-- Cutting on from where some blocks end gives the blocks behind them. -/
theorem cut_stops
    (front : List Bytes) {back : List Bytes} (holds : set.Holds envelope (front ++ back)) :
    set.cut front.flatten.length (stops front.flatten.length back) = back := by
  induction back generalizing front with
  | nil => rfl
  | cons block rest ih =>
      have next : (front ++ [block]).flatten.length = front.flatten.length + block.length := by
        rw [List.flatten_append, List.length_append, List.flatten_singleton]
      have divided : (front ++ block :: rest).flatten =
          (front ++ [block]).flatten ++ rest.flatten := by
        rw [← List.flatten_append, List.append_assoc, List.singleton_append]
      have here : set.slice front.flatten.length (front.flatten.length + block.length) =
          block := by
        rw [holds.slice_eq, ← next, divided, List.take_left, List.flatten_append, List.drop_left,
          List.flatten_singleton]
      rw [List.append_cons] at holds
      have later := ih (front ++ [block]) holds
      rw [next] at later
      rw [stops, cut, here, later]

theorem parts_eq (holds : set.Holds envelope blocks) : set.parts = (envelope, blocks) := by
  have cut : set.cut 0 (stops 0 blocks) = blocks := cut_stops [] holds
  rw [parts, holds.envelope, holds.ends, cut]

end Holds

end SurveyCube.TaskSet
