import SurveyCube.Room
import SurveyCube.Proofs.Outcome
import SurveyCube.Proofs.TaskSet

/-!
# A task set after any changes

A task set changes when a block is appended or an envelope is set.  `Change.block?`
and `Change.envelope?` say what a change brings in.

* One change keeps `TaskSet.Holds`, with the block behind the others or with the
  envelope in place of an earlier one; so does a run of changes.
* `TaskSet.Shows` collects what is read from a task set.  A set that holds an envelope
  and blocks shows just these, by each of the ways in which it is read.
* Room that was asked for beforehand does not show.
-/

namespace SurveyCube.TaskSet

/-- A change of a task set. -/
inductive Change where
  | append (block : Bytes)
  | setEnvelope (envelope : Bytes)
  deriving DecidableEq, Repr

namespace Change

/-- The block that a change appends. -/
def block? : Change → Option Bytes
  | .append block => some block
  | .setEnvelope _ => none

/-- The envelope that a change sets. -/
def envelope? : Change → Option Bytes
  | .append _ => none
  | .setEnvelope envelope => some envelope

end Change

/-- The task set after a change. -/
def apply (set : TaskSet) : Change → TaskSet
  | .append block => set.append block
  | .setEnvelope envelope => set.setEnvelope envelope

/-- The task set after changes, one after the other. -/
def applyAll (set : TaskSet) (changes : List Change) : TaskSet :=
  changes.foldl apply set

/-- All that is read from a task set is read from an envelope and a list of blocks. -/
structure Shows (set : TaskSet) (front : Option Bytes) (held : List Bytes) : Prop where
  count : set.count = held.length
  isEmpty : set.isEmpty = true ↔ held = []
  get? : ∀ i, set.get? i = held[i]?
  blocks : set.blocks = held
  byteLength : set.byteLength = held.flatten.length
  envelope : set.envelope = front
  parts : set.parts = (front, held)
  stream : set.stream = front.getD [] ++ held.flatten

namespace Holds

variable {set : TaskSet} {envelope : Option Bytes} {blocks : List Bytes}

theorem shows (holds : set.Holds envelope blocks) : set.Shows envelope blocks where
  count := holds.count_eq
  isEmpty := holds.isEmpty_iff
  get? := holds.get?_eq
  blocks := holds.blocks_eq
  byteLength := holds.byteLength_eq
  envelope := holds.envelope
  parts := holds.parts_eq
  stream := holds.stream_eq

theorem apply (holds : set.Holds envelope blocks) (change : Change) :
    (set.apply change).Holds (change.envelope?.or envelope) (blocks ++ change.block?.toList) := by
  cases change with
  | append block => exact holds.append block
  | setEnvelope front =>
      have kept := holds.setEnvelope front
      rwa [← List.append_nil blocks] at kept

/-- Blocks come behind the ones before them, and the last envelope stays. -/
theorem applyAll (holds : set.Holds envelope blocks) (changes : List Change) :
    (set.applyAll changes).Holds ((changes.filterMap Change.envelope?).getLast?.or envelope)
      (blocks ++ changes.filterMap Change.block?) := by
  induction changes generalizing set envelope blocks with
  | nil =>
      rw [← List.append_nil blocks] at holds
      exact holds
  | cons change rest ih =>
      have later := ih (holds.apply change)
      rw [List.append_assoc] at later
      cases change with
      | append block => exact later
      | setEnvelope front =>
          have last : (front :: rest.filterMap Change.envelope?).getLast?.or envelope =
              (rest.filterMap Change.envelope?).getLast?.or (some front) := by
            rw [List.getLast?_cons]
            cases (rest.filterMap Change.envelope?).getLast? <;> rfl
          exact last ▸ later

end Holds

/-- Room for the blocks does not show, and is refused only beyond the limit. -/
theorem withRoom_cases (room : Nat) :
    withRoom room = .ok empty ∨
      Reservation.limit < (Reservation.stops room).bytes ∧
        withRoom room = .error ⟨Reservation.stops room⟩ := by
  by_cases fits : (Reservation.stops room).bytes ≤ Reservation.limit
  · left
    rw [withRoom, Reservation.settle, if_pos fits]
    rfl
  · right
    refine ⟨Nat.lt_of_not_le fits, ?_⟩
    rw [withRoom, Reservation.settle, if_neg fits]
    rfl

/-! ## Main result -/

/-- After any changes, a task set shows the last envelope that was set and the blocks
that were appended, in order.  So does one that started with room, if there was room. -/
theorem changes_show (changes : List Change) :
    (empty.applyAll changes).Shows (changes.filterMap Change.envelope?).getLast?
      (changes.filterMap Change.block?) ∧
    ∀ room,
      (∃ set, withRoom room = .ok set ∧
        (set.applyAll changes).Shows (changes.filterMap Change.envelope?).getLast?
          (changes.filterMap Change.block?)) ∨
      Reservation.limit < (Reservation.stops room).bytes ∧
        withRoom room = .error ⟨Reservation.stops room⟩ := by
  have holds := holds_empty.applyAll changes
  rw [Option.or_none, List.nil_append] at holds
  refine ⟨holds.shows, ?_⟩
  intro room
  rcases withRoom_cases room with made | refused
  · exact Or.inl ⟨empty, made, holds.shows⟩
  · exact Or.inr refused

/-- An empty block between two others has a place of its own, and the later envelope
takes the place of the earlier one. -/
example :
    (empty.applyAll [.append [97, 98], .setEnvelope [60], .append [], .append [99],
      .setEnvelope [62]]).parts = (some [62], [[97, 98], [], [99]]) := by
  decide

end SurveyCube.TaskSet
