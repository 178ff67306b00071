import Mathlib.Data.List.Nodup
import SurveyCube.Plan.Curtain
import SurveyCube.Proofs.Outcome
import SurveyCube.Proofs.Runs
import SurveyCube.Proofs.Tiling

/-!
# Columns of traces

A curtain gathers its traces visit by visit.  What comes of it is best seen from
the columns: sort the traces by column, cut them where the column changes, and
spread every column over the depth.

* One visit gives its fragment a place and leaves the others alone
  (`Visit.find?_enter`), so after all visits the single of a fragment holds the
  places of its visits (`Single.gather_spec`).
* The columns of traces ascend, and together they hold every trace once.
* Both ways lead to the same singles (`Single.gather_visits`).
-/

namespace SurveyCube

/-! ## Traces -/

namespace Trace

/-- The topmost point of a trace. -/
def top (pair : Nat × Nat) : CubePoint :=
  ⟨pair.1, pair.2, 0⟩

/-- The trace of a polyline that passes through a pair at a position. -/
def located (tiling : Tiling) (pair : Nat × Nat) (position : Nat) : Trace where
  column := tiling.rootOf (top pair)
  position
  place := ((tiling.localOf (top pair)).x, (tiling.localOf (top pair)).y)

theorem locate_eq_ok {tiling : Tiling} {pair : Nat × Nat} {position : Nat} {trace : Trace} :
    locate tiling pair position = .ok trace ↔
      (top pair).Within tiling.cube ∧ located tiling pair position = trace := by
  constructor
  · intro found
    obtain ⟨point, inside, found⟩ := bind_eq_ok.mp found
    obtain ⟨within, same⟩ := Tiling.inside_eq_ok.mp inside
    subst same
    exact ⟨within, pure_eq_ok.mp found⟩
  · rintro ⟨within, rfl⟩
    exact bind_eq_ok.mpr ⟨_, Tiling.inside_of_within within, rfl⟩

end Trace

namespace CurtainQuery

/-- The traces of a polyline. -/
def traces (tiling : Tiling) (pairs : List (Nat × Nat)) : List Trace :=
  pairs.zipIdx.map fun (pair, position) => Trace.located tiling pair position

theorem mem_traces {tiling : Tiling} {pairs : List (Nat × Nat)} {trace : Trace} :
    trace ∈ traces tiling pairs ↔
      ∃ pair position, pairs[position]? = some pair ∧
        Trace.located tiling pair position = trace := by
  simp only [traces, List.mem_map, Prod.exists, List.mem_zipIdx_iff_getElem?]

theorem mapM_locate_eq_ok {tiling : Tiling} {pairs : List (Nat × Nat)} {found : List Trace} :
    (pairs.zipIdx.mapM fun (pair, position) => Trace.locate tiling pair position) = .ok found ↔
      (∀ pair ∈ pairs, (Trace.top pair).Within tiling.cube) ∧ traces tiling pairs = found :=
  mapM_zipIdx_eq_ok fun _ _ => Trace.locate_eq_ok

theorem position_traces (tiling : Tiling) (pairs : List (Nat × Nat)) :
    (traces tiling pairs).map Trace.position = List.range pairs.length := by
  rw [traces, List.map_map, List.range_eq_range', ← List.zipIdx_map_snd]
  rfl

theorem traces_numbered (tiling : Tiling) (pairs : List (Nat × Nat)) :
    (traces tiling pairs).Pairwise fun a b => a.position < b.position := by
  rw [← List.pairwise_map, position_traces]
  exact List.pairwise_lt_range

end CurtainQuery

/-! ## Columns -/

namespace Trace

/-- Traces come by column, and within a column by their position. -/
def notAfter (a b : Trace) : Bool :=
  decide (a.column < b.column ∨ a.column = b.column ∧ a.position ≤ b.position)

/-- Two traces pass through the same column. -/
def sameColumn (a b : Trace) : Bool :=
  a.column = b.column

/-- Traces are numbered, and name the topmost fragments of their columns. -/
structure Listed (traces : List Trace) : Prop where
  numbered : traces.Pairwise fun a b => a.position < b.position
  highest : ∀ trace ∈ traces, trace.column.z = 0

theorem Listed.of_cons {trace : Trace} {rest : List Trace} (listed : Listed (trace :: rest)) :
    Listed rest where
  numbered := listed.numbered.of_cons
  highest := (List.forall_mem_cons.mp listed.highest).2

end Trace

/-- The traces of one column, in the order of the polyline. -/
structure Column where
  top : FragmentId
  /-- The position of the first trace. -/
  first : Nat
  places : List (Nat × Nat)
  deriving DecidableEq, Repr

namespace Column

def ofRun? : List Trace → Option Column
  | [] => none
  | trace :: rest => some {
      top := trace.column
      first := trace.position
      places := (trace :: rest).map Trace.place }

/-- The columns of traces, ascending. -/
def ofTraces (traces : List Trace) : List Column :=
  ((traces.mergeSort Trace.notAfter).splitBy Trace.sameColumn).filterMap ofRun?

/-- The fragments of a column, from the top down. -/
def singles (column : Column) (layers : Nat) : List Single :=
  (List.range layers).map fun z => {
    id := column.top.withZ z
    offset := column.first
    coordinates := column.places }

theorem runs_traces (traces : List Trace) :
    Runs Trace.column traces
      ((traces.mergeSort Trace.notAfter).splitBy Trace.sameColumn) :=
  Runs.ofMergeSort (fun a b => a.position ≤ b.position) (fun _ _ => decide_eq_true_iff)
    (fun _ _ _ => Nat.le_trans) (fun a b => Nat.le_total a.position b.position) traces

theorem ofRun?_eq_some {run : List Trace} {column : Column} (made : ofRun? run = some column) :
    (∃ trace ∈ run, trace.column = column.top ∧ trace.position = column.first) ∧
      column.places = run.map Trace.place := by
  cases run with
  | nil => cases made
  | cons trace rest =>
      cases made
      exact ⟨⟨trace, List.mem_cons_self, rfl, rfl⟩, rfl⟩

theorem ofTraces_ascending (traces : List Trace) :
    (ofTraces traces).Pairwise fun a b => a.top < b.top := by
  apply (runs_traces traces).groups_ascending
  intro run column made
  obtain ⟨⟨trace, member, same, _⟩, _⟩ := ofRun?_eq_some made
  exact ⟨trace, member, same⟩

/-- The places of a column, each with the column. -/
def entries (column : Column) : List (FragmentId × (Nat × Nat)) :=
  column.places.map fun place => (column.top, place)

/-- The columns of traces hold every trace once. -/
theorem entries_ofTraces (traces : List Trace) :
    ((ofTraces traces).flatMap entries).Perm
      (traces.map fun trace => (trace.column, trace.place)) := by
  apply (runs_traces traces).entries_perm
  intro run member
  cases run with
  | nil => rfl
  | cons trace rest =>
      have same := (runs_traces traces).same _ member trace List.mem_cons_self
      simp only [ofRun?, Option.elim_some, entries, List.map_map]
      apply List.map_congr_left
      intro other inside
      rw [Function.comp_apply, same other inside]

theorem exists_trace_of_mem {traces : List Trace} {column : Column}
    (member : column ∈ ofTraces traces) :
    ∃ trace ∈ traces, trace.column = column.top ∧ trace.position = column.first := by
  obtain ⟨run, inside, made⟩ := List.mem_filterMap.mp member
  obtain ⟨⟨trace, here, same⟩, _⟩ := ofRun?_eq_some made
  exact ⟨trace, ((runs_traces traces).subperm inside).subset here, same⟩

theorem places_ne_nil {traces : List Trace} {column : Column}
    (member : column ∈ ofTraces traces) : column.places ≠ [] := by
  obtain ⟨run, _, made⟩ := List.mem_filterMap.mp member
  obtain ⟨⟨trace, here, _⟩, places⟩ := ofRun?_eq_some made
  rw [places]
  exact List.ne_nil_of_mem (List.mem_map_of_mem here)

theorem exists_trace_of_place {traces : List Trace} {column : Column} {place : Nat × Nat}
    (member : column ∈ ofTraces traces) (inside : place ∈ column.places) :
    ∃ trace ∈ traces, trace.column = column.top ∧ trace.place = place := by
  have entry : (column.top, place) ∈ (ofTraces traces).flatMap entries :=
    List.mem_flatMap.mpr ⟨column, member, List.mem_map_of_mem inside⟩
  obtain ⟨trace, here, same⟩ := List.mem_map.mp ((entries_ofTraces traces).mem_iff.mp entry)
  exact ⟨trace, here, (Prod.mk.inj same).1, (Prod.mk.inj same).2⟩

theorem mem_singles {column : Column} {layers : Nat} {single : Single} :
    single ∈ column.singles layers ↔
      ∃ z < layers, single =
        { id := column.top.withZ z, offset := column.first, coordinates := column.places } := by
  simp only [singles, List.mem_map, List.mem_range, eq_comm]

variable {traces : List Trace}

/-- A column starts with its first trace, and goes on with the others in order. -/
theorem exists_filter_eq
    (numbered : traces.Pairwise fun a b => a.position < b.position)
    (member : column ∈ ofTraces traces) :
    ∃ first rest, (traces.filter fun trace => trace.column = column.top) = first :: rest ∧
      first.position = column.first ∧ column.places = (first :: rest).map Trace.place := by
  obtain ⟨run, inside, made⟩ := List.mem_filterMap.mp member
  cases run with
  | nil => cases made
  | cons first rest =>
      have once (a : Trace) (here : a ∈ traces) (b : Trace) (there : b ∈ traces)
          (below : a.position ≤ b.position) (above : b.position ≤ a.position) : a = b := by
        refine List.inj_on_of_nodup_map ?_ here there (Nat.le_antisymm below above)
        rw [List.Nodup, List.pairwise_map]
        exact numbered.imp fun before => Nat.ne_of_lt before
      have ordered : traces.Pairwise fun a b => a.position ≤ b.position :=
        numbered.imp fun before => Nat.le_of_lt before
      have front : first ∈ first :: rest := List.mem_cons_self
      have held := Runs.eq_filter_of_mem (fun a b => a.position ≤ b.position)
        (fun _ _ => decide_eq_true_iff) (fun _ _ _ => Nat.le_trans)
        (fun a b => Nat.le_total a.position b.position) once ordered inside front
      cases made
      exact ⟨first, rest, held.symm, rfl, rfl⟩

/-- Every trace has its column. -/
theorem exists_of_mem_traces {trace : Trace} (traced : trace ∈ traces) :
    ∃ column ∈ ofTraces traces, column.top = trace.column := by
  have entry := (entries_ofTraces traces).mem_iff.mpr (List.mem_map_of_mem traced)
  obtain ⟨column, found, inside⟩ := List.mem_flatMap.mp entry
  obtain ⟨place, _, same⟩ := List.mem_map.mp inside
  exact ⟨column, found, (Prod.mk.inj same).1⟩

theorem highest_of_mem_ofTraces (listed : Trace.Listed traces) {column : Column}
    (member : column ∈ ofTraces traces) : column.top.z = 0 := by
  obtain ⟨trace, traced, same, _⟩ := exists_trace_of_mem member
  rw [← same]
  exact listed.highest trace traced

theorem singles_ascending (column : Column) (layers : Nat) :
    (column.singles layers).Pairwise fun a b => a.id < b.id := by
  rw [singles, List.pairwise_map]
  refine List.Pairwise.imp ?_ List.pairwise_lt_range
  intro i j before
  exact Triple.lt_def.mpr (Or.inr ⟨rfl, Or.inr ⟨rfl, before⟩⟩)

/-- A fragment of an earlier column comes before one of a later column, at
whatever depth they are. -/
theorem withZ_lt {a b : FragmentId} (before : a < b) (top : a.z = b.z) (i j : Nat) :
    a.withZ i < b.withZ j := by
  rw [Triple.lt_def] at *
  simp only [Triple.withZ]
  omega

theorem flatMap_singles_ascending (listed : Trace.Listed traces) (layers : Nat) :
    ((ofTraces traces).flatMap fun column => column.singles layers).Pairwise
      fun a b => a.id < b.id := by
  rw [List.pairwise_flatMap]
  constructor
  · intro column _
    exact column.singles_ascending _
  · refine (ofTraces_ascending _).imp_of_mem ?_
    intro earlier later first second before a here b there
    obtain ⟨i, _, rfl⟩ := mem_singles.mp here
    obtain ⟨j, _, rfl⟩ := mem_singles.mp there
    apply withZ_lt before
    rw [highest_of_mem_ofTraces listed first, highest_of_mem_ofTraces listed second]

end Column

theorem CurtainQuery.listed_traces (tiling : Tiling) (pairs : List (Nat × Nat)) :
    Trace.Listed (traces tiling pairs) where
  numbered := traces_numbered tiling pairs
  highest := by
    intro trace traced
    obtain ⟨pair, position, _, rfl⟩ := mem_traces.mp traced
    exact Nat.zero_div _

/-! ## Visits -/

namespace Single

/-- What visits to one fragment give. -/
def ofVisits : List Visit → Option Single
  | [] => none
  | visit :: rest => some {
      id := visit.id
      offset := visit.position
      coordinates := (visit :: rest).map Visit.place }

/-- A further visit adds to what there is, or opens the single. -/
theorem ofVisits_append (visits : List Visit) (visit : Visit) :
    ofVisits (visits ++ [visit]) = some ((ofVisits visits).elim visit.opened visit.added) := by
  cases visits with
  | nil => rfl
  | cons first rest => simp [ofVisits, Visit.added]

theorem mem_iff_find?_eq_some {singles : List Single}
    (ascending : singles.Pairwise fun a b => a.id < b.id) {single : Single} :
    single ∈ singles ↔ singles.find? (fun other => other.id = single.id) = some single := by
  constructor
  · intro member
    induction singles with
    | nil => cases member
    | cons first rest ih =>
        obtain ⟨before, ascending⟩ := List.pairwise_cons.mp ascending
        rcases List.mem_cons.mp member with rfl | later
        · exact List.find?_cons_of_pos (decide_eq_true rfl)
        · rw [List.find?_cons_of_neg, ih ascending later]
          simpa using fun same => Triple.lt_irrefl _ (same ▸ before single later)
  · exact List.mem_of_find?_eq_some

/-- Below all ids there is nothing. -/
theorem find?_eq_none_of_lt {singles : List Single} {id : FragmentId}
    (below : ∀ single ∈ singles, id < single.id) :
    singles.find? (fun single => single.id = id) = none := by
  rw [List.find?_eq_none]
  intro single member same
  rw [decide_eq_true_eq] at same
  exact Triple.lt_irrefl _ (same ▸ below single member)

end Single

namespace Visit

variable {visit : Visit} {singles : List Single}

theorem lt_of_mem_cons {first : Single} {rest : List Single}
    (before : ∀ single ∈ rest, first.id < single.id) (below : visit.id < first.id) :
    ∀ single ∈ first :: rest, visit.id < single.id :=
  List.forall_mem_cons.mpr
    ⟨below, fun single later => Triple.lt_trans below (before single later)⟩

theorem of_mem_enter {single : Single} (member : single ∈ visit.enter singles) :
    single.id = visit.id ∨ ∃ other ∈ singles, other.id = single.id := by
  induction singles with
  | nil =>
      rw [enter, List.mem_singleton] at member
      exact Or.inl (congrArg Single.id member)
  | cons first rest ih =>
      unfold enter at member
      split at member
      · rcases List.mem_cons.mp member with rfl | old
        · exact Or.inl rfl
        · exact Or.inr ⟨single, old, rfl⟩
      · split at member
        · rename_i same
          rcases List.mem_cons.mp member with rfl | old
          · exact Or.inl same.symm
          · exact Or.inr ⟨single, List.mem_cons_of_mem _ old, rfl⟩
        · rcases List.mem_cons.mp member with rfl | later
          · exact Or.inr ⟨single, List.mem_cons_self, rfl⟩
          · refine (ih later).imp_right ?_
            rintro ⟨other, old, same⟩
            exact ⟨other, List.mem_cons_of_mem _ old, same⟩

/-- A visit keeps the order of the singles. -/
theorem enter_ascending (ascending : singles.Pairwise fun a b => a.id < b.id) :
    (visit.enter singles).Pairwise fun a b => a.id < b.id := by
  induction singles with
  | nil => exact List.pairwise_singleton _ _
  | cons first rest ih =>
      obtain ⟨before, sorted⟩ := List.pairwise_cons.mp ascending
      unfold enter
      split
      · rename_i below
        exact List.pairwise_cons.mpr ⟨lt_of_mem_cons before below, ascending⟩
      · split
        · exact List.pairwise_cons.mpr ⟨before, sorted⟩
        · rename_i below differs
          refine List.pairwise_cons.mpr ⟨?_, ih sorted⟩
          intro single member
          rcases of_mem_enter member with same | ⟨other, old, same⟩
          · rw [same]
            rcases Triple.lt_or_eq_or_gt visit.id first.id with less | equal | greater
            · exact absurd less below
            · exact absurd equal differs
            · exact greater
          · rw [← same]
            exact before other old

/-- A visit gives its fragment a place, and leaves the other fragments as they are. -/
theorem find?_enter (ascending : singles.Pairwise fun a b => a.id < b.id) (id : FragmentId) :
    (visit.enter singles).find? (fun single => single.id = id) =
      if visit.id = id then
        some ((singles.find? fun single => single.id = id).elim visit.opened visit.added)
      else
        singles.find? fun single => single.id = id := by
  induction singles with
  | nil =>
      by_cases here : visit.id = id <;> simp [enter, opened, here]
  | cons first rest ih =>
      obtain ⟨before, sorted⟩ := List.pairwise_cons.mp ascending
      unfold enter
      split
      · rename_i below
        have opens : visit.opened.id = visit.id := rfl
        by_cases here : visit.id = id
        · -- The list has nothing at the fragment, since all of its ids come after.
          have none : (first :: rest).find? (fun single => single.id = id) = none := by
            rw [← here]
            exact Single.find?_eq_none_of_lt (lt_of_mem_cons before below)
          rw [List.find?_cons_of_pos (by simpa [opens] using here), if_pos here, none]
          rfl
        · rw [List.find?_cons_of_neg (by simpa [opens] using here), if_neg here]
      · split
        · rename_i same
          have kept : (visit.added first).id = first.id := rfl
          by_cases here : visit.id = id
          · rw [List.find?_cons_of_pos (by simpa [kept, ← same] using here),
              List.find?_cons_of_pos (by simpa [← same] using here), if_pos here]
            rfl
          · rw [List.find?_cons_of_neg (by simpa [kept, ← same] using here),
              List.find?_cons_of_neg (by simpa [← same] using here), if_neg here]
        · rename_i differs
          by_cases found : first.id = id
          · have elsewhere : visit.id ≠ id := fun here => differs (here.trans found.symm)
            rw [List.find?_cons_of_pos (by simpa using found),
              List.find?_cons_of_pos (by simpa using found), if_neg elsewhere]
          · rw [List.find?_cons_of_neg (by simpa using found),
              List.find?_cons_of_neg (by simpa using found), ih sorted]

end Visit

/-- After all visits the singles ascend, and the single of a fragment is what the visits
to it give. -/
theorem Single.gather_spec (visits : List Visit) :
    (gather visits).Pairwise (fun a b => a.id < b.id) ∧
      ∀ id, (gather visits).find? (fun single => single.id = id) =
        ofVisits (visits.filter fun visit => visit.id = id) := by
  induction visits using List.reverseRecOn with
  | nil => exact ⟨List.Pairwise.nil, fun _ => rfl⟩
  | append_singleton visits visit ih =>
      obtain ⟨ascending, found⟩ := ih
      have next : gather (visits ++ [visit]) = visit.enter (gather visits) := by
        simp [gather]
      rw [next]
      refine ⟨Visit.enter_ascending ascending, ?_⟩
      intro id
      rw [Visit.find?_enter ascending, found, List.filter_append]
      by_cases here : visit.id = id
      · have chosen : [visit].filter (fun visit => visit.id = id) = [visit] := by simp [here]
        rw [if_pos here, chosen, ofVisits_append]
      · have skipped : [visit].filter (fun visit => visit.id = id) = [] := by simp [here]
        rw [if_neg here, skipped, List.append_nil]

/-! ## Visits of traces -/

section Traces

variable {traces : List Trace} {layers : Nat}

theorem filter_range_eq (n i : Nat) :
    (List.range n).filter (fun j => j = i) = if i < n then [i] else [] := by
  induction n with
  | zero => rfl
  | succ n ih =>
      rw [List.range_succ, List.filter_append, ih]
      grind

/-- The visits of a trace to one fragment. -/
theorem Trace.filter_visits {trace : Trace} (highest : trace.column.z = 0) (id : FragmentId) :
    (trace.visits layers).filter (fun visit => visit.id = id) =
      if id.z < layers ∧ trace.column = id.withZ 0 then
        [⟨id, trace.position, trace.place⟩]
      else
        [] := by
  have meets (z : Nat) : trace.column.withZ z = id ↔ z = id.z ∧ trace.column = id.withZ 0 := by
    simp only [Triple.ext_iff, Triple.withZ, highest]
    tauto
  rw [Trace.visits, List.filter_map]
  simp only [Function.comp_def, meets]
  by_cases column : trace.column = id.withZ 0
  · have back : trace.column.withZ id.z = id := (meets id.z).mpr ⟨rfl, column⟩
    simp only [column, and_true, filter_range_eq]
    split
    · simp [← column, back]
    · rfl
  · simp [column]

theorem Trace.filter_flatMap_visits (listed : Listed traces) (id : FragmentId) :
    (traces.flatMap (visits layers)).filter (fun visit => visit.id = id) =
      if id.z < layers then
        (traces.filter fun trace => trace.column = id.withZ 0).map
          fun trace => ⟨id, trace.position, trace.place⟩
      else
        [] := by
  induction traces with
  | nil => simp
  | cons trace rest ih =>
      have here : (trace.visits layers).filter (fun visit => visit.id = id) = _ :=
        filter_visits (listed.highest trace List.mem_cons_self) id
      rw [List.flatMap_cons, List.filter_append, here, ih listed.of_cons]
      by_cases deep : id.z < layers
      · by_cases column : trace.column = id.withZ 0 <;> simp [deep, column]
      · simp [deep]

/-- A single is what visits give exactly if its column gives it. -/
theorem Column.mem_flatMap_singles (listed : Trace.Listed traces) {single : Single} :
    single ∈ (ofTraces traces).flatMap (fun column => column.singles layers) ↔
      Single.ofVisits ((traces.flatMap (Trace.visits layers)).filter
        fun visit => visit.id = single.id) = some single := by
  rw [Trace.filter_flatMap_visits listed, List.mem_flatMap]
  constructor
  · rintro ⟨column, found, inside⟩
    obtain ⟨z, deep, rfl⟩ := mem_singles.mp inside
    obtain ⟨first, rest, held, front, places⟩ := exists_filter_eq listed.numbered found
    have top : (column.top.withZ z).withZ 0 = column.top :=
      Triple.ext rfl rfl (highest_of_mem_ofTraces listed found).symm
    rw [if_pos (show (column.top.withZ z).z < layers from deep), top, held, places, ← front]
    simp [Single.ofVisits]
  · intro given
    split at given
    · rename_i deep
      cases held : traces.filter fun trace => trace.column = single.id.withZ 0 with
      | nil =>
          rw [held] at given
          cases given
      | cons first rest =>
          rw [held] at given
          have chosen : first ∈ traces.filter fun trace => trace.column = single.id.withZ 0 := by
            rw [held]
            exact List.mem_cons_self
          obtain ⟨traced, decided⟩ := List.mem_filter.mp chosen
          have same : first.column = single.id.withZ 0 := of_decide_eq_true decided
          obtain ⟨column, found, top⟩ := exists_of_mem_traces traced
          rw [same] at top
          obtain ⟨other, others, again, front, places⟩ := exists_filter_eq listed.numbered found
          rw [top, held, List.cons.injEq] at again
          obtain ⟨rfl, rfl⟩ := again
          refine ⟨column, found, mem_singles.mpr ⟨single.id.z, deep, ?_⟩⟩
          rw [top, ← front, places]
          have whole : (single.id.withZ 0).withZ single.id.z = single.id := rfl
          rw [whole]
          simpa [Single.ofVisits, Function.comp_def] using (Option.some.inj given).symm
    · cases given

/-- The singles that the visits of traces leave are those of the columns. -/
theorem Single.gather_visits (listed : Trace.Listed traces) (layers : Nat) :
    gather (traces.flatMap (Trace.visits layers)) =
      (Column.ofTraces traces).flatMap fun column => column.singles layers := by
  obtain ⟨ascending, found⟩ := gather_spec (traces.flatMap (Trace.visits layers))
  have sorted := Column.flatMap_singles_ascending listed layers
  have same (single : Single) : single ∈ gather (traces.flatMap (Trace.visits layers)) ↔
      single ∈ (Column.ofTraces traces).flatMap fun column => column.singles layers := by
    rw [mem_iff_find?_eq_some ascending, found, Column.mem_flatMap_singles listed]
  exact Triple.eq_of_ascending ascending sorted same

end Traces

end SurveyCube
