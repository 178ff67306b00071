import SurveyCube.Schedule

/-!
# Room

Planning sets room aside for some of its lists before it fills them.  Such a
list lies in one piece of memory, and more than `Reservation.limit` bytes in one
piece can never be had.  A plan that asks for more ends at once, without an
answer and without a fault.

* A slice asks for as many fragment ids as it is going to list.
* A curtain asks, for every fragment of the data volume that it meets, for as
  many places as a plane through the fragment has, and a fifth more.  The length
  of the polyline plays no part in it.  For attribute volumes a curtain asks for
  nothing.

A task set may ask for room for its blocks beforehand, too.

`scheduleInRoom` is scheduling with an eye to the room.  When there is enough of
it, the outcome is that of `schedule`.
-/

namespace SurveyCube

/-- Room for a number of items of one size, in one piece. -/
structure Reservation where
  items : Nat
  /-- The size of an item in bytes. -/
  width : Nat
  deriving DecidableEq, Repr

/-- The end of a plan that asked for too much room. -/
structure OutOfRoom where
  reservation : Reservation
  deriving DecidableEq, Repr

def OutOfRoom.message (_ : OutOfRoom) : String :=
  "capacity overflow"

namespace Reservation

/-- The greatest number of bytes in one piece. -/
def limit : Nat := 2 ^ 63 - 1

def bytes (reservation : Reservation) : Nat :=
  reservation.items * reservation.width

def settle (reservation : Reservation) : Except OutOfRoom Unit :=
  if reservation.bytes ≤ limit then .ok () else .error ⟨reservation⟩

/-- Room for the ids of the fragments that a plane across an axis meets. -/
def ids (tiling : Tiling) (axis : Axis) : Reservation where
  items := tiling.total / tiling.count axis
  width := 24

/-- Room for the traces of a curtain in one fragment. -/
def places (tiling : Tiling) : Reservation where
  items := max (tiling.fragment.get .inline) (tiling.fragment.get .crossline) * 6 / 5
  width := 16

def stops (blocks : Nat) : Reservation where
  items := blocks
  width := 8

end Reservation

/-- The set without blocks and envelope, with room for so many blocks. -/
def TaskSet.withRoom (blocks : Nat) : Except OutOfRoom TaskSet := do
  (Reservation.stops blocks).settle
  return { TaskSet.empty with ends := Array.emptyWithCapacity blocks }

/-! ## Gathering traces -/

/-- The singles after a visit.  A visit that opens a single sets room aside for its
places. -/
def Visit.enterInRoom (visit : Visit) (room : Reservation) (singles : List Single) :
    Except OutOfRoom (List Single) := do
  if ∀ single ∈ singles, single.id ≠ visit.id then
    room.settle
  return visit.enter singles

namespace CurtainQuery

def gatherInRoom (tiling : Tiling) (room : Reservation) :
    List ((Nat × Nat) × Nat) → List Single → Except OutOfRoom (Except Fault (List Single))
  | [], singles => .ok (.ok singles)
  | (pair, position) :: rest, singles =>
      match Trace.locate tiling pair position with
      | .error fault => .ok (.error fault)
      | .ok trace => do
          let visited ← (trace.visits (tiling.count .depth)).foldlM
            (fun singles visit => visit.enterInRoom room singles) singles
          gatherInRoom tiling room rest visited

/-- The fragments of one volume that the polyline passes through, with room set
aside for the places of each. -/
def singlesInRoom (query : CurtainQuery) (tiling : Tiling) (room : Reservation) :
    Except OutOfRoom (Except Fault (List Single)) :=
  match query.pairs with
  | .error fault => .ok (.error fault)
  | .ok pairs => gatherInRoom tiling room pairs.zipIdx []

end CurtainQuery

/-! ## Reservations of plans -/

/-- The query shapes whose plans reserve room. -/
class Reserving (α : Type) where
  /-- The reservations of a plan, in order, as far as the plan gets. -/
  reservations : α → List Reservation

/-- The reservations for planes of attribute volumes.  A volume without a tiling
ends the plan. -/
def Manifest.layerReservations (manifest : Manifest) (axis : Axis) :
    List AttributeDesc → List Reservation
  | [] => []
  | desc :: rest =>
      match manifest.attributeTiling desc with
      | .ok layer => .ids layer axis :: manifest.layerReservations axis rest
      | .error _ => []

namespace SliceQuery

def reservations (query : SliceQuery) : List Reservation :=
  match query.base.manifest.tiling, Axis.ofIndex query.dim with
  | .ok tiling, .ok axis =>
      if query.idx < tiling.cube.get axis then
        .ids tiling axis :: query.base.manifest.layerReservations axis
          (query.base.manifest.recorded query.base.attributes)
      else
        []
  | _, _ => []

end SliceQuery

namespace CurtainQuery

/-- Room is reserved when the first trace has found its column. -/
def reservations (query : CurtainQuery) : List Reservation :=
  match query.base.manifest.tiling, query.pairs with
  | .ok tiling, .ok (pair :: _) =>
      if Triple.Within ⟨pair.1, pair.2, 0⟩ tiling.cube then [.places tiling] else []
  | _, _ => []

end CurtainQuery

instance : Reserving SliceQuery where
  reservations := SliceQuery.reservations

instance : Reserving CurtainQuery where
  reservations := CurtainQuery.reservations

/-! ## Scheduling in room -/

section Typed

variable {α τ ι : Type} [Schedulable α τ] [Reserving α]

def tasksInRoom (query : α) : Except OutOfRoom (Except Fault (List τ)) := do
  (Reserving.reservations query).forM Reservation.settle
  return Schedulable.tasks query

variable [Divisible τ ι] [Serial τ]

/-- The response to a query.  An invalid manifest is refused before planning. -/
def scheduleQueryInRoom (query : α) (taskSize : Nat) : Except OutOfRoom (Except Fault TaskSet) :=
  match (Schedulable.base query).manifest.validate with
  | .error fault => .ok (.error fault)
  | .ok () => do
      (Reserving.reservations (Schedulable.normalized query)).forM Reservation.settle
      return scheduleQuery query taskSize

variable [Serial α]

variable (α) in
/-- The response to the query that a document of known shape holds. -/
def scheduleAsInRoom (document : Bytes) (taskSize : Nat) :
    Except OutOfRoom (Except Fault TaskSet) :=
  match readDocument α document with
  | .error fault => .ok (.error fault)
  | .ok query => scheduleQueryInRoom query taskSize

variable (α) in
def scheduleDatumInRoom (datum : Datum) (taskSize : Nat) :
    Except OutOfRoom (Except Fault TaskSet) :=
  match (ofDatum? datum : Option α) with
  | none => .ok (.error .unreadableDocument)
  | some query => scheduleQueryInRoom query taskSize

end Typed

/-- What a document of the supported version holds, and the function that it
names. -/
def announced (document : Bytes) : Except Fault (Datum × Function) := do
  let datum ← readWhole document
  checkFormatVersion datum
  return (datum, ← requestedFunction datum)

/-- The response to the query that a document holds, planned by the function
that it names. -/
def scheduleInRoom (document : Bytes) (taskSize : Nat) :
    Except OutOfRoom (Except Fault TaskSet) :=
  match announced document with
  | .error fault => .ok (.error fault)
  | .ok (datum, .slice) => scheduleDatumInRoom SliceQuery datum taskSize
  | .ok (datum, .curtain) => scheduleDatumInRoom CurtainQuery datum taskSize

def Scheduler.scheduleInRoom (scheduler : Scheduler) (document : Bytes) :
    Except OutOfRoom (Except Fault TaskSet) :=
  SurveyCube.scheduleInRoom document scheduler.config.taskSize

end SurveyCube
