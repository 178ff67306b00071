import SurveyCube.Proofs.Acceptance
import SurveyCube.Proofs.Dispatch
import SurveyCube.Room

/-!
# When there is not enough room

A plan that can set aside the room it asks for has the outcome that it would
have without asking.  Otherwise it ends without an outcome, and this depends on
the query alone:

* for a slice, on the number of fragments that its plane meets in one of the
  volumes (`SliceQuery.Overreaches`);
* for a curtain, on the shape of the fragments of the data volume, as soon as
  there is a trace (`CurtainQuery.Overreaches`).
-/

namespace SurveyCube

/-! ## Reservations -/

namespace Reservation

theorem settle_eq_error {reservation : Reservation} {stop : OutOfRoom} :
    reservation.settle = .error stop ↔ limit < reservation.bytes ∧ stop = ⟨reservation⟩ := by
  unfold settle
  by_cases fits : reservation.bytes ≤ limit
  · simp [fits, Nat.not_lt.mpr fits]
  · simp [fits, Nat.lt_of_not_le fits, eq_comm]

theorem settle_eq_ok {reservation : Reservation} :
    reservation.settle = .ok () ↔ reservation.bytes ≤ limit := by
  unfold settle
  by_cases fits : reservation.bytes ≤ limit <;> simp [fits]

theorem forM_settle_stops {reservations : List Reservation} :
    (∃ stop, reservations.forM settle = .error stop) ↔
      ∃ reservation ∈ reservations, limit < reservation.bytes := by
  constructor
  · rintro ⟨stop, stopped⟩
    obtain ⟨reservation, member, refused⟩ := exists_of_forM_eq_error stopped
    exact ⟨reservation, member, (settle_eq_error.mp refused).1⟩
  · rintro ⟨reservation, member, excess⟩
    cases settled : reservations.forM settle with
    | error stop => exact ⟨stop, rfl⟩
    | ok done =>
        have fits := settle_eq_ok.mp (forM_eq_ok.mp settled reservation member)
        exact absurd excess (Nat.not_lt.mpr fits)

/-- A slice asks for the ids that it lists, no more and no less. -/
theorem items_ids (tiling : Tiling) (axis : Axis) (pin : Nat) :
    (ids tiling axis).items = (Shape.plane tiling.counts axis pin).length := by
  have positive : 0 < tiling.count axis := by
    apply Nat.div_pos _ (tiling.fragment_get_pos axis)
    have cells := tiling.cube_get_pos axis
    omega
  have volume : tiling.total = tiling.count .inline * tiling.count .crossline *
      tiling.count .depth := rfl
  rw [ids, volume]
  apply Nat.div_eq_of_eq_mul_right positive
  cases axis <;>
    simp [Shape.plane, Shape.axisSpan, List.length_flatMap, Tiling.counts, Triple.get_ofFn] <;>
    ac_rfl

theorem bytes_ids {tiling : Tiling} {axis : Axis} {index : Nat} {ids : List FragmentId}
    (cut : tiling.slice axis index = .ok ids) :
    (Reservation.ids tiling axis).bytes = ids.length * 24 := by
  obtain ⟨_, rfl⟩ := Tiling.slice_eq_ok.mp cut
  rw [bytes, items_ids]
  rfl

end Reservation

/-! ## Gathering traces in room -/

namespace Visit

theorem enterInRoom_of_le {visit : Visit} {room : Reservation}
    (fits : room.bytes ≤ Reservation.limit) (singles : List Single) : visit.enterInRoom room singles = .ok (visit.enter singles) := by
  unfold enterInRoom
  rw [Reservation.settle_eq_ok.mpr fits]
  split <;> rfl

theorem enterInRoom_nil {visit : Visit} {room : Reservation}
    (excess : Reservation.limit < room.bytes) : visit.enterInRoom room [] = .error ⟨room⟩ := by
  unfold enterInRoom
  rw [Reservation.settle_eq_error.mpr ⟨excess, rfl⟩, if_pos (by simp)]
  rfl

theorem foldlM_enterInRoom_of_le {room : Reservation} (fits : room.bytes ≤ Reservation.limit)
    (visits : List Visit) (singles : List Single) :
    visits.foldlM (fun singles visit => visit.enterInRoom room singles) singles =
      .ok (visits.foldl (fun singles visit => visit.enter singles) singles) := by
  induction visits generalizing singles with
  | nil => rfl
  | cons visit rest ih =>
      rw [List.foldlM_cons, enterInRoom_of_le fits, ok_bind, ih]
      rfl

end Visit

namespace CurtainQuery

variable {query : CurtainQuery} {tiling : Tiling} {room : Reservation}

theorem gatherInRoom_of_le (fits : room.bytes ≤ Reservation.limit)
    (pairs : List ((Nat × Nat) × Nat)) (singles : List Single) :
    gatherInRoom tiling room pairs singles = .ok (do
      let traces ← pairs.mapM fun (pair, position) => Trace.locate tiling pair position
      return (traces.flatMap (Trace.visits (tiling.count .depth))).foldl
        (fun singles visit => visit.enter singles) singles) := by
  induction pairs generalizing singles with
  | nil => rfl
  | cons entry rest ih =>
      obtain ⟨pair, position⟩ := entry
      rw [gatherInRoom, List.mapM_cons]
      simp only [bind_assoc, pure_bind]
      cases Trace.locate tiling pair position with
      | error fault => rfl
      | ok trace =>
          simp only [Visit.foldlM_enterInRoom_of_le fits, ok_bind, ih, List.flatMap_cons,
            List.foldl_append]

/-- With room for every single, gathering is the same as without asking. -/
theorem singlesInRoom_of_le (fits : room.bytes ≤ Reservation.limit) :
    query.singlesInRoom tiling room = .ok (query.singles tiling) := by
  unfold singlesInRoom singles
  cases query.pairs with
  | error fault => rfl
  | ok pairs => exact gatherInRoom_of_le fits pairs.zipIdx []

/-- The first trace of the polyline lies in the cube. -/
def Enters (query : CurtainQuery) (tiling : Tiling) : Prop :=
  ∃ pair rest, query.pairs = .ok (pair :: rest) ∧ (Trace.top pair).Within tiling.cube

theorem singlesInRoom_of_enters (excess : Reservation.limit < room.bytes)
    (enters : query.Enters tiling) : query.singlesInRoom tiling room = .error ⟨room⟩ := by
  obtain ⟨pair, rest, paired, inside⟩ := enters
  have located : Trace.locate tiling pair 0 = .ok (Trace.located tiling pair 0) :=
    Trace.locate_eq_ok.mpr ⟨inside, rfl⟩
  have deep : 0 < tiling.count .depth := by
    rw [Tiling.lt_count_iff, Nat.zero_mul]
    exact tiling.cube_get_pos .depth
  -- Some fragment is visited, and there is no single yet.
  have some : (Trace.located tiling pair 0).visits (tiling.count .depth) ≠ [] := by
    rw [Trace.visits, Ne, List.map_eq_nil_iff, List.range_eq_nil]
    exact deep.ne'
  obtain ⟨visit, visits, visited⟩ := List.exists_cons_of_ne_nil some
  rw [singlesInRoom, paired]
  simp only [List.zipIdx_cons, gatherInRoom, located, visited, List.foldlM_cons,
    Visit.enterInRoom_nil excess]
  rfl

/-- Gathering that comes to an end has the outcome of gathering without asking. -/
theorem singlesInRoom_of_not_enters (outside : ¬ query.Enters tiling) :
    query.singlesInRoom tiling room = .ok (query.singles tiling) := by
  unfold singlesInRoom singles
  cases paired : query.pairs with
  | error fault => rfl
  | ok pairs =>
      cases pairs with
      | nil => rfl
      | cons pair rest =>
          cases located : Trace.locate tiling pair 0 with
          | ok trace =>
              have inside := (Trace.locate_eq_ok.mp located).1
              exact absurd ⟨pair, rest, paired, inside⟩ outside
          | error fault =>
              simp only [ok_bind, List.zipIdx_cons, gatherInRoom, List.mapM_cons, located,
                error_bind]

theorem singlesInRoom_stops :
    (∃ stop, query.singlesInRoom tiling room = .error stop) ↔
      Reservation.limit < room.bytes ∧ query.Enters tiling := by
  constructor
  · rintro ⟨stop, stopped⟩
    rcases Nat.lt_or_ge Reservation.limit room.bytes with excess | fits
    · refine ⟨excess, ?_⟩
      by_contra outside
      rw [singlesInRoom_of_not_enters outside] at stopped
      cases stopped
    · rw [singlesInRoom_of_le fits] at stopped
      cases stopped
  · rintro ⟨excess, enters⟩
    exact ⟨_, singlesInRoom_of_enters excess enters⟩

theorem singlesInRoom_eq_ok {outcome : Except Fault (List Single)}
    (ends : query.singlesInRoom tiling room = .ok outcome) :
    query.singles tiling = outcome := by
  by_cases enters : query.Enters tiling
  · rcases Nat.lt_or_ge Reservation.limit room.bytes with excess | fits
    · rw [singlesInRoom_of_enters excess enters] at ends
      cases ends
    · rw [singlesInRoom_of_le fits] at ends
      exact Except.ok.inj ends
  · rw [singlesInRoom_of_not_enters enters] at ends
    exact Except.ok.inj ends

end CurtainQuery

/-! ## Plans of valid manifests -/

theorem Manifest.mem_layerReservations {manifest : Manifest} {axis : Axis}
    {descs : List AttributeDesc}
    (layered : ∀ desc ∈ descs, ∃ layer, manifest.attributeTiling desc = .ok layer)
    {reservation : Reservation} :
    reservation ∈ manifest.layerReservations axis descs ↔
      ∃ desc ∈ descs, ∃ layer, manifest.attributeTiling desc = .ok layer ∧
        reservation = .ids layer axis := by
  induction descs with
  | nil => simp [layerReservations]
  | cons desc rest ih =>
      rw [List.forall_mem_cons] at layered
      obtain ⟨layer, tiled⟩ := layered.1
      have here : reservation = .ids layer axis ↔
          ∃ other, manifest.attributeTiling desc = .ok other ∧
            reservation = .ids other axis := by
        simp [tiled]
      rw [List.exists_mem_cons_iff, ← here, ← ih layered.2]
      simp only [layerReservations, tiled, List.mem_cons]

namespace SliceQuery

variable {query : SliceQuery}

/-- The volume is one of those that a slice is cut from. -/
def Cuts (query : SliceQuery) (tiling : Tiling) : Prop :=
  query.base.manifest.tiling = .ok tiling ∨
    ∃ desc ∈ query.base.manifest.recorded (normalizedAttributes query.base.attributes),
      query.base.manifest.attributeTiling desc = .ok tiling

/-- The query is to be planned, and its plane meets more fragments of a volume
than one list can hold. -/
structure Overreaches (query : SliceQuery) : Prop where
  validated : query.base.manifest.validate = .ok ()
  inside : query.idx < query.base.manifest.lineCount query.dim
  vast : ∃ axis : Axis, query.dim = axis.index ∧ ∃ tiling, query.Cuts tiling ∧
    Reservation.limit < tiling.total / tiling.count axis * 24

theorem reservations_of_lt {tiling : Tiling} {axis : Axis}
    (tiled : query.base.manifest.tiling = .ok tiling) (along : Axis.ofIndex query.dim = .ok axis)
    (inside : query.idx < tiling.cube.get axis) :
    query.reservations = .ids tiling axis :: query.base.manifest.layerReservations axis
      (query.base.manifest.recorded query.base.attributes) := by
  simp only [reservations, tiled, along, if_pos inside]

theorem exists_vast_reservation_iff (validated : query.base.manifest.validate = .ok ()) :
    (∃ reservation ∈ Reserving.reservations (Schedulable.normalized query),
      Reservation.limit < reservation.bytes) ↔ query.Overreaches := by
  have valid := Manifest.valid_of_validate validated
  obtain ⟨tiling, tiled⟩ := valid.tiled
  have layers {axis : Axis} {reservation : Reservation} :
      reservation ∈ query.base.manifest.layerReservations axis
          (query.base.manifest.recorded (normalizedAttributes query.base.attributes)) ↔ _ :=
    Manifest.mem_layerReservations fun desc requested => valid.exists_layer requested
  change (∃ reservation ∈ (Schedulable.normalized query).reservations, _) ↔ _
  constructor
  · rintro ⟨reservation, member, excess⟩
    unfold reservations at member
    split at member
    · rename_i found axis same along
      split at member
      · rename_i inside
        obtain rfl : tiling = found := Except.ok.inj (tiled.symm.trans same)
        have axial : query.dim = axis.index := Axis.ofIndex_eq_ok.mp along
        refine ⟨validated, ?_, axis, axial, ?_⟩
        · rw [axial, Manifest.lineCount_index tiled]
          exact inside
        · rcases List.mem_cons.mp member with rfl | later
          · exact ⟨tiling, Or.inl tiled, excess⟩
          · obtain ⟨desc, requested, layer, layered, rfl⟩ := layers.mp later
            exact ⟨layer, Or.inr ⟨desc, requested, layered⟩, excess⟩
      · cases member
    · cases member
  · rintro ⟨_, inside, axis, axial, layer, cut, excess⟩
    have along : Axis.ofIndex query.dim = .ok axis := Axis.ofIndex_eq_ok.mpr axial
    rw [axial, Manifest.lineCount_index tiled] at inside
    refine ⟨.ids layer axis, ?_, excess⟩
    have planned : (Schedulable.normalized query).reservations = .ids tiling axis ::
        query.base.manifest.layerReservations axis
          (query.base.manifest.recorded (normalizedAttributes query.base.attributes)) :=
      reservations_of_lt tiled along inside
    rw [planned]
    rcases cut with whole | ⟨desc, requested, layered⟩
    · obtain rfl : tiling = layer := Except.ok.inj (tiled.symm.trans whole)
      exact List.mem_cons_self
    · exact List.mem_cons_of_mem _ (layers.mpr ⟨desc, requested, layer, layered, rfl⟩)

end SliceQuery

namespace CurtainQuery

variable {query : CurtainQuery}

/-- The query is to be planned, its first trace lies in the cube, and a plane
through a fragment of the data volume has more places than one list can hold. -/
structure Overreaches (query : CurtainQuery) : Prop where
  validated : query.base.manifest.validate = .ok ()
  even : query.dim0s.length = query.dim1s.length
  starts : ∃ x y, query.dim0s.head? = some x ∧ query.dim1s.head? = some y ∧
    x < query.base.manifest.lineCount 0 ∧ y < query.base.manifest.lineCount 1
  vast : ∃ shape, query.base.manifest.fragmentShape = .ok shape ∧
    Reservation.limit < max shape.x shape.y * 6 / 5 * 16

theorem mem_reservations {reservation : Reservation} :
    reservation ∈ query.reservations ↔ ∃ tiling, query.base.manifest.tiling = .ok tiling ∧
      query.Enters tiling ∧ reservation = .places tiling := by
  unfold reservations
  constructor
  · intro member
    split at member
    · rename_i tiling pair rest tiled paired
      split at member
      · rename_i inside
        exact ⟨tiling, tiled, ⟨pair, rest, paired, inside⟩, List.mem_singleton.mp member⟩
      · cases member
    · cases member
  · rintro ⟨tiling, tiled, ⟨pair, rest, paired, inside⟩, rfl⟩
    have surface : Triple.Within ⟨pair.1, pair.2, 0⟩ tiling.cube := inside
    simp only [tiled, paired, if_pos surface, List.mem_singleton]

theorem exists_vast_reservation_iff (validated : query.base.manifest.validate = .ok ()) :
    (∃ reservation ∈ Reserving.reservations (Schedulable.normalized query),
      Reservation.limit < reservation.bytes) ↔ query.Overreaches := by
  obtain ⟨tiling, tiled⟩ := (Manifest.valid_of_validate validated).tiled
  have stored := (Manifest.tiling_eq_ok.mp tiled).2
  have inlines : query.base.manifest.lineCount 0 = tiling.cube.x :=
    Manifest.lineCount_index tiled .inline
  have crosslines : query.base.manifest.lineCount 1 = tiling.cube.y :=
    Manifest.lineCount_index tiled .crossline
  change (∃ reservation ∈ (Schedulable.normalized query).reservations, _) ↔ _
  constructor
  · rintro ⟨reservation, member, excess⟩
    obtain ⟨found, same, ⟨pair, rest, paired, inside⟩, rfl⟩ := mem_reservations.mp member
    obtain rfl : tiling = found := Except.ok.inj (tiled.symm.trans same)
    obtain ⟨even, zipped⟩ : query.dim0s.length = query.dim1s.length ∧
        query.dim0s.zip query.dim1s = pair :: rest :=
      pairs_eq_ok.mp paired
    refine ⟨validated, even, ?_, tiling.fragment, stored, excess⟩
    cases first : query.dim0s with
    | nil => simp [first] at zipped
    | cons x others =>
        cases second : query.dim1s with
        | nil => simp [second] at zipped
        | cons y others =>
            rw [first, second, List.zip_cons_cons, List.cons.injEq] at zipped
            obtain ⟨rfl, _⟩ := zipped
            rw [inlines, crosslines]
            exact ⟨x, y, rfl, rfl, inside.1, inside.2.1⟩
  · rintro ⟨_, even, ⟨x, y, first, second, here, there⟩, shape, found, excess⟩
    obtain rfl : tiling.fragment = shape := Except.ok.inj (stored.symm.trans found)
    obtain ⟨xs, inlinesOf⟩ := List.head?_eq_some_iff.mp first
    obtain ⟨ys, crosslinesOf⟩ := List.head?_eq_some_iff.mp second
    have paired : query.pairs = .ok ((x, y) :: xs.zip ys) := by
      rw [pairs_eq_ok, inlinesOf, crosslinesOf, List.zip_cons_cons]
      rw [inlinesOf, crosslinesOf] at even
      exact ⟨even, rfl⟩
    have inside : Triple.Within ⟨x, y, 0⟩ tiling.cube := by
      rw [inlines] at here
      rw [crosslines] at there
      exact ⟨here, there, tiling.cube_pos.2.2⟩
    exact ⟨_, mem_reservations.mpr ⟨tiling, tiled, ⟨_, _, paired, inside⟩, rfl⟩, excess⟩

end CurtainQuery

/-! ## Queries and documents -/

theorem tasksInRoom_stops {α τ : Type} [Schedulable α τ] [Reserving α] {query : α} :
    (∃ stop, tasksInRoom query = .error stop) ↔
      ∃ reservation ∈ Reserving.reservations query, Reservation.limit < reservation.bytes := by
  rw [← Reservation.forM_settle_stops, tasksInRoom]
  cases (Reserving.reservations query).forM Reservation.settle with
  | error stop => simp
  | ok done => simp [ok_bind, pure, Except.pure]

theorem tasksInRoom_eq_ok {α τ : Type} [Schedulable α τ] [Reserving α] {query : α}
    {outcome : Except Fault (List τ)} (ends : tasksInRoom query = .ok outcome) :
    Schedulable.tasks query = outcome := by
  obtain ⟨_, _, ends⟩ := bind_eq_ok.mp ends
  exact pure_eq_ok.mp ends

/-- The plan of a curtain stops where the data volume is gathered, and nowhere else. -/
theorem CurtainQuery.tasksInRoom_stops_iff {query : CurtainQuery} {tiling : Tiling}
    (tiled : query.base.manifest.tiling = .ok tiling) :
    (∃ stop, tasksInRoom query = .error stop) ↔
      ∃ stop, query.singlesInRoom tiling (.places tiling) = .error stop := by
  rw [tasksInRoom_stops, singlesInRoom_stops]
  constructor
  · rintro ⟨reservation, member, excess⟩
    obtain ⟨other, same, enters, rfl⟩ := mem_reservations.mp member
    obtain rfl : tiling = other := Except.ok.inj (tiled.symm.trans same)
    exact ⟨excess, enters⟩
  · rintro ⟨excess, enters⟩
    exact ⟨_, mem_reservations.mpr ⟨tiling, tiled, enters, rfl⟩, excess⟩

section Typed

variable {α τ ι : Type} [Schedulable α τ] [Reserving α] [Divisible τ ι] [Serial τ]

/-- A query that is given room has the outcome that it has anyway. -/
theorem scheduleQueryInRoom_eq_ok {query : α} {taskSize : Nat} {outcome : Except Fault TaskSet}
    (ends : scheduleQueryInRoom query taskSize = .ok outcome) :
    scheduleQuery query taskSize = outcome := by
  unfold scheduleQueryInRoom at ends
  split at ends
  · rename_i fault invalid
    cases ends
    rw [scheduleQuery, invalid]
    rfl
  · obtain ⟨_, _, ends⟩ := bind_eq_ok.mp ends
    exact pure_eq_ok.mp ends

theorem scheduleQueryInRoom_stops {query : α} {taskSize : Nat} :
    (∃ stop, scheduleQueryInRoom query taskSize = .error stop) ↔
      (Schedulable.base query).manifest.validate = .ok () ∧
        ∃ reservation ∈ Reserving.reservations (Schedulable.normalized query),
          Reservation.limit < reservation.bytes := by
  unfold scheduleQueryInRoom
  cases validated : (Schedulable.base query).manifest.validate with
  | error fault => simp
  | ok done =>
      simp only [true_and, ← Reservation.forM_settle_stops]
      cases (Reserving.reservations (Schedulable.normalized query)).forM Reservation.settle with
      | error stop => simp
      | ok done => simp [ok_bind, pure, Except.pure]

/-- Where only valid manifests let a query overreach, it ends without an outcome exactly
if it does. -/
theorem scheduleQueryInRoom_stops_iff {query : α} {taskSize : Nat} {overreaches : Prop}
    (validated : overreaches → (Schedulable.base query).manifest.validate = .ok ())
    (vast : (Schedulable.base query).manifest.validate = .ok () →
      ((∃ reservation ∈ Reserving.reservations (Schedulable.normalized query),
        Reservation.limit < reservation.bytes) ↔ overreaches)) :
    (∃ stop, scheduleQueryInRoom query taskSize = .error stop) ↔ overreaches := by
  rw [scheduleQueryInRoom_stops]
  constructor
  · rintro ⟨valid, excess⟩
    exact (vast valid).mp excess
  · intro excess
    exact ⟨validated excess, (vast (validated excess)).mpr excess⟩

variable [Serial α]

theorem scheduleDatumInRoom_eq_ok {datum : Datum} {taskSize : Nat}
    {outcome : Except Fault TaskSet}
    (ends : scheduleDatumInRoom α datum taskSize = .ok outcome) :
    scheduleDatum α datum taskSize = outcome := by
  unfold scheduleDatumInRoom at ends
  unfold scheduleDatum
  cases read : (ofDatum? datum : Option α) with
  | none =>
      rw [read] at ends
      exact Except.ok.inj ends
  | some query =>
      rw [read] at ends
      exact scheduleQueryInRoom_eq_ok ends

theorem scheduleDatumInRoom_stops {datum : Datum} {taskSize : Nat} {overreaches : α → Prop}
    (stops : ∀ query : α,
      (∃ stop, scheduleQueryInRoom query taskSize = .error stop) ↔ overreaches query) :
    (∃ stop, scheduleDatumInRoom α datum taskSize = .error stop) ↔
      ∃ query : α, ofDatum? datum = some query ∧ overreaches query := by
  unfold scheduleDatumInRoom
  cases read : (ofDatum? datum : Option α) with
  | none => simp
  | some query => simp only [stops, Option.some.injEq, exists_eq_left']

end Typed

theorem SliceQuery.scheduleInRoom_stops (query : SliceQuery) (taskSize : Nat) :
    (∃ stop, scheduleQueryInRoom query taskSize = .error stop) ↔ query.Overreaches :=
  scheduleQueryInRoom_stops_iff Overreaches.validated exists_vast_reservation_iff

theorem CurtainQuery.scheduleInRoom_stops (query : CurtainQuery) (taskSize : Nat) :
    (∃ stop, scheduleQueryInRoom query taskSize = .error stop) ↔ query.Overreaches :=
  scheduleQueryInRoom_stops_iff Overreaches.validated exists_vast_reservation_iff

theorem announced_eq_ok {document : Bytes} {datum : Datum} {function : Function} :
    announced document = .ok (datum, function) ↔
      readWhole document = .ok datum ∧ checkFormatVersion datum = .ok () ∧
        requestedFunction datum = .ok function := by
  unfold announced
  simp only [bind_eq_ok, pure_eq_ok]
  constructor
  · rintro ⟨_, whole, _, supported, _, named, same⟩
    cases same
    exact ⟨whole, supported, named⟩
  · rintro ⟨whole, supported, named⟩
    exact ⟨datum, whole, (), supported, function, named, rfl⟩

theorem schedule_eq_announced (document : Bytes) (taskSize : Nat) :
    schedule document taskSize =
      announced document >>= fun (datum, function) => planBy function datum taskSize := by
  unfold schedule announced
  simp only [bind_assoc, pure_bind]
  rfl

/-- The query of a datum asks for more than there can be. -/
def Datum.Overreaches (datum : Datum) : Function → Prop
  | .slice => ∃ query : SliceQuery, ofDatum? datum = some query ∧ query.Overreaches
  | .curtain => ∃ query : CurtainQuery, ofDatum? datum = some query ∧ query.Overreaches

theorem scheduleInRoom_eq_ok {document : Bytes} {taskSize : Nat}
    {outcome : Except Fault TaskSet} (ends : scheduleInRoom document taskSize = .ok outcome) :
    schedule document taskSize = outcome := by
  unfold scheduleInRoom at ends
  rw [schedule_eq_announced]
  split at ends
  · rename_i fault refused
    cases ends
    rw [refused, error_bind]
  · rename_i datum announced
    rw [announced, ok_bind]
    exact scheduleDatumInRoom_eq_ok ends
  · rename_i datum announced
    rw [announced, ok_bind]
    exact scheduleDatumInRoom_eq_ok ends

theorem scheduleInRoom_eq_error {document : Bytes} {taskSize : Nat} {fault : Fault}
    (refused : announced document = .error fault) :
    scheduleInRoom document taskSize = .ok (.error fault) := by
  rw [scheduleInRoom, refused]

/-- Scheduling ends without an outcome exactly if the document announces a query
that asks for more than there can be. -/
theorem scheduleInRoom_stops {document : Bytes} {taskSize : Nat} :
    (∃ stop, scheduleInRoom document taskSize = .error stop) ↔
      ∃ datum function, announced document = .ok (datum, function) ∧
        datum.Overreaches function := by
  unfold scheduleInRoom
  cases found : announced document with
  | error fault => simp
  | ok pair =>
      obtain ⟨datum, function⟩ := pair
      simp only [Except.ok.injEq, Prod.mk.injEq, ↓existsAndEq, true_and, and_assoc]
      cases function with
      | slice =>
          exact scheduleDatumInRoom_stops fun query => query.scheduleInRoom_stops taskSize
      | curtain =>
          exact scheduleDatumInRoom_stops fun query => query.scheduleInRoom_stops taskSize

/-! ## Main result -/

/-- A query ends without an outcome exactly if it asks for more room than there can be.
Otherwise it is accepted exactly if its needs are met, and is refused for the first of
them that is not. -/
theorem queries_governed_in_room (taskSize : Nat) :
    (∀ query : SliceQuery,
      ((∃ stop, scheduleQueryInRoom query taskSize = .error stop) ↔ query.Overreaches) ∧
      ∀ outcome, scheduleQueryInRoom query taskSize = .ok outcome →
        Governs (query.needs taskSize) outcome) ∧
    (∀ query : CurtainQuery,
      ((∃ stop, scheduleQueryInRoom query taskSize = .error stop) ↔ query.Overreaches) ∧
      ∀ outcome, scheduleQueryInRoom query taskSize = .ok outcome →
        Governs (query.needs taskSize) outcome) := by
  constructor
  · intro query
    refine ⟨query.scheduleInRoom_stops taskSize, ?_⟩
    intro outcome ends
    rw [← scheduleQueryInRoom_eq_ok ends]
    exact query.governed_by_needs taskSize
  · intro query
    refine ⟨query.scheduleInRoom_stops taskSize, ?_⟩
    intro outcome ends
    rw [← scheduleQueryInRoom_eq_ok ends]
    exact query.governed_by_needs taskSize

/-- The survey of the examples is valid, holds the line and leaves room, so that a task
size of zero is what its query is refused for. -/
theorem smallSlice_refused_for_taskSize :
    ∃ fault, scheduleQueryInRoom smallSlice 0 = .ok (.error fault) ∧
      fault.kind = .invalidArgument := by
  have validated : (Schedulable.base smallSlice).manifest.validate = .ok () := by decide
  have settled : (Reserving.reservations (Schedulable.normalized smallSlice)).forM
      Reservation.settle = .ok () := by
    rw [smallSlice_normalized]
    decide
  have ends : scheduleQueryInRoom smallSlice 0 = .ok (scheduleQuery smallSlice 0) := by
    rw [scheduleQueryInRoom, validated]
    simp only [settled, ok_bind]
    rfl
  have governs := ((queries_governed_in_room 0).1 smallSlice).2 _ ends
  cases scheduled : scheduleQuery smallSlice 0 with
  | ok set =>
      have met := governs.succeeds_iff.mp ⟨set, scheduled⟩
      have positive : 1 ≤ 0 := met (.ofKind (1 ≤ 0) .invalidArgument) (by simp [SliceQuery.needs])
      exact absurd positive (by decide)
  | error fault =>
      rw [scheduled] at ends
      refine ⟨fault, ends, ?_⟩
      rcases governs.blames_first fault scheduled with
        ⟨unmet, _⟩ | ⟨_, ⟨unmet, _⟩ | ⟨_, ⟨unmet, _⟩ | ⟨_, ⟨_, blamed⟩ | ⟨met, _⟩⟩⟩⟩
      · exact absurd validated unmet
      · exact absurd (show smallSlice.dim < 3 by decide) unmet
      · exact absurd (show smallSlice.idx < smallSurvey.lineCount smallSlice.dim by decide) unmet
      · exact blamed
      · exact absurd (show 1 ≤ 0 from met) (by decide)

/-- A survey of a single sample, in fragments far longer than the survey. -/
def longFragments : Manifest where
  formatVersion := 1
  data := [{
    storagePrefix := "src"
    fileExtension := "f32"
    shapes := [⟨600000000000000000, 1, 1⟩] }]
  attributes := []
  lineNumbers := [[1], [1], [1]]
  lineLabels := []

/-- The polyline through the only trace of that survey. -/
def longTrace : CurtainQuery where
  base := {
    pid := "p"
    token := ""
    guid := ""
    storageEndpoint := ""
    manifest := longFragments
    attributes := [] }
  dim0s := [0]
  dim1s := [0]

/-- A curtain under one trace meets all needs, and yet ends without an outcome. -/
theorem longTrace_ends_though_needs_are_met :
    (∀ need ∈ longTrace.needs 10, need.met) ∧
      scheduleQueryInRoom longTrace 10 = .error ⟨⟨720000000000000000, 16⟩⟩ := by
  constructor
  · rw [← (longTrace.governed_by_needs 10).succeeds_iff]
    have counted : (scheduleQuery longTrace 10).map TaskSet.count = .ok 1 := by
      decide +kernel
    obtain ⟨set, accepted, _⟩ := map_eq_ok.mp counted
    exact ⟨set, accepted⟩
  · have validated : (Schedulable.base longTrace).manifest.validate = .ok () := by decide
    rw [scheduleQueryInRoom, validated]
    rfl

end SurveyCube
