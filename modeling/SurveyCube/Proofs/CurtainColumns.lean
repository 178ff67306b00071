import Mathlib.Order.Bounds.Basic
import SurveyCube.Proofs.CurtainCover

/-!
# A curtain gathers its traces by column

The traces of a polyline come to columns in any order, and come back to them.  A
single names its fragment, the first trace of the column and the place of every
trace there.

* A column is a run of the sorted traces.  Since traces are numbered in the order
  of the polyline, the run is what the polyline has in the column, in order.
* `GathersColumns` says of the singles of a volume which fragments they name, and
  what they hold of the column.  The depth of a fragment plays no part in the
  latter.
-/

namespace SurveyCube

/-! ## Columns -/

namespace Tiling

/-- The column of fragments that the trace through a pair lies in. -/
def columnOf (tiling : Tiling) (pair : Nat × Nat) : Nat × Nat :=
  ((tiling.rootOf (Trace.top pair)).x, (tiling.rootOf (Trace.top pair)).y)

/-- The place of the trace through a pair inside its column. -/
def placeIn (tiling : Tiling) (pair : Nat × Nat) : Nat × Nat :=
  ((tiling.localOf (Trace.top pair)).x, (tiling.localOf (Trace.top pair)).y)

end Tiling

/-- The column of the fragment of a single. -/
def Single.column (single : Single) : Nat × Nat :=
  (single.id.x, single.id.y)

/-- A single holds what a polyline has in its column. -/
structure Single.Gathers (tiling : Tiling) (pairs : List (Nat × Nat)) (single : Single) : Prop where
  first : IsLeast {i | ∃ pair, pairs[i]? = some pair ∧ tiling.columnOf pair = single.column}
    single.offset
  /-- Traces keep their order, and come as often as the polyline passes there. -/
  places : single.coordinates =
    (pairs.filter fun pair => tiling.columnOf pair = single.column).map tiling.placeIn

/-- Singles hold the traces of a polyline, gathered by the columns of a volume. -/
structure GathersColumns (tiling : Tiling) (pairs : List (Nat × Nat)) (singles : List Single) :
    Prop where
  within : ∀ pair ∈ pairs, (Trace.top pair).Within tiling.cube
  ascending : (singles.map Single.id).Pairwise (· < ·)
  /-- The fragments are those of the columns of all traces, over the whole depth. -/
  ids : ∀ id, id ∈ singles.map Single.id ↔
    ∃ pair ∈ pairs, ∃ z < tiling.count .depth,
      id = ⟨(tiling.columnOf pair).1, (tiling.columnOf pair).2, z⟩
  each : ∀ single ∈ singles, single.Gathers tiling pairs
  /-- Fragments of one column hold the same. -/
  alike : ∀ single ∈ singles, ∀ other ∈ singles, other.column = single.column →
    other.offset = single.offset ∧ other.coordinates = single.coordinates

theorem Single.Gathers.alike
    {tiling : Tiling} {pairs : List (Nat × Nat)} {single other : Single}
    (gathers : single.Gathers tiling pairs) (gathersToo : other.Gathers tiling pairs)
    (same : other.column = single.column) :
    other.offset = single.offset ∧ other.coordinates = single.coordinates := by
  obtain ⟨first, places⟩ := gathersToo
  rw [same] at first places
  exact ⟨first.unique gathers.first, places.trans gathers.places.symm⟩

namespace Column

variable {traces : List Trace} {column : Column}

/-- The first of the numbered traces that are chosen has the least position. -/
theorem first_of_filter_eq
    {chosen : Trace → Bool} {first : Trace} {rest : List Trace}
    (numbered : traces.Pairwise fun a b => a.position < b.position)
    (held : traces.filter chosen = first :: rest) :
    (first ∈ traces ∧ chosen first = true) ∧
      ∀ trace ∈ traces, chosen trace = true → first.position ≤ trace.position := by
  constructor
  · rw [← List.mem_filter, held]
    exact List.mem_cons_self
  · intro trace traced here
    have there : trace ∈ traces.filter chosen := List.mem_filter.mpr ⟨traced, here⟩
    have sorted := numbered.filter chosen
    rw [held] at there sorted
    rcases List.mem_cons.mp there with rfl | later
    · exact Nat.le_refl _
    · exact Nat.le_of_lt ((List.pairwise_cons.mp sorted).1 trace later)

end Column

/-! ## Traces of a polyline -/

namespace CurtainQuery

variable {tiling : Tiling} {pairs : List (Nat × Nat)}

/-- The topmost fragment of a column says which column it is. -/
theorem rootOf_top_eq_iff {top : FragmentId} (highest : top.z = 0) (pair : Nat × Nat) :
    tiling.rootOf (Trace.top pair) = top ↔ tiling.columnOf pair = (top.x, top.y) := by
  have surface : (tiling.rootOf (Trace.top pair)).z = 0 := Nat.zero_div _
  rw [Triple.ext_iff, Tiling.columnOf, Prod.mk.injEq, surface, highest]
  simp

/-- What the traces hold of a column is what the polyline has there. -/
theorem place_filter_traces {top : FragmentId} (highest : top.z = 0) :
    ((traces tiling pairs).filter fun trace => trace.column = top).map Trace.place =
      (pairs.filter fun pair => tiling.columnOf pair = (top.x, top.y)).map tiling.placeIn := by
  have chosen : (pairs.zipIdx.filter fun entry => tiling.rootOf (Trace.top entry.1) = top).map
      Prod.fst = pairs.filter fun pair => tiling.columnOf pair = (top.x, top.y) := by
    rw [← List.zipIdx_map_fst 0 pairs, List.filter_map, List.zipIdx_map_fst]
    simp only [rootOf_top_eq_iff highest]
    rfl
  rw [traces, List.filter_map, List.map_map, ← chosen, List.map_map]
  rfl

/-- The fragments of a column hold what the polyline has there. -/
theorem gathers_of_mem_singles {column : Column} {layers : Nat} {single : Single}
    (member : column ∈ Column.ofTraces (traces tiling pairs))
    (inside : single ∈ column.singles layers) : single.Gathers tiling pairs := by
  obtain ⟨z, _, rfl⟩ := Column.mem_singles.mp inside
  have listed := listed_traces tiling pairs
  have highest := Column.highest_of_mem_ofTraces listed member
  obtain ⟨first, rest, held, front, places⟩ := Column.exists_filter_eq listed.numbered member
  obtain ⟨⟨traced, same⟩, least⟩ := Column.first_of_filter_eq listed.numbered held
  refine ⟨⟨?_, ?_⟩, ?_⟩
  · obtain ⟨pair, position, listed, rfl⟩ := mem_traces.mp traced
    refine ⟨pair, ?_, (rootOf_top_eq_iff highest pair).mp (of_decide_eq_true same)⟩
    rw [← front]
    exact listed
  · rintro i ⟨pair, listed, same⟩
    rw [← front]
    exact least (Trace.located tiling pair i) (mem_traces.mpr ⟨pair, i, listed, rfl⟩)
      (decide_eq_true ((rootOf_top_eq_iff highest pair).mpr same))
  · rw [places, ← held]
    exact place_filter_traces highest

theorem exists_column (tiling : Tiling) {pair : Nat × Nat} (member : pair ∈ pairs) :
    ∃ column ∈ Column.ofTraces (traces tiling pairs),
      column.top = tiling.rootOf (Trace.top pair) := by
  obtain ⟨position, listed⟩ := List.mem_iff_getElem?.mp member
  have traced : Trace.located tiling pair position ∈ traces tiling pairs :=
    mem_traces.mpr ⟨pair, position, listed, rfl⟩
  exact Column.exists_of_mem_traces traced

/-! ## Singles -/

variable {query : CurtainQuery} {singles : List Single}

theorem mem_ids_iff (planned : query.singles tiling = .ok singles) (id : FragmentId) :
    id ∈ singles.map Single.id ↔
      ∃ pair ∈ query.dim0s.zip query.dim1s, ∃ z < tiling.count .depth,
        id = ⟨(tiling.columnOf pair).1, (tiling.columnOf pair).2, z⟩ := by
  obtain ⟨pairs, paired, _, rfl⟩ := singles_eq_ok.mp planned
  obtain ⟨_, rfl⟩ := pairs_eq_ok.mp paired
  constructor
  · intro named
    obtain ⟨single, member, rfl⟩ := List.mem_map.mp named
    obtain ⟨column, found, here⟩ := List.mem_flatMap.mp member
    obtain ⟨z, deep, rfl⟩ := Column.mem_singles.mp here
    obtain ⟨trace, traced, same, _⟩ := Column.exists_trace_of_mem found
    obtain ⟨pair, position, listed, rfl⟩ := mem_traces.mp traced
    refine ⟨pair, List.mem_of_getElem? listed, z, deep, ?_⟩
    rw [← same]
    rfl
  · rintro ⟨pair, listed, z, deep, rfl⟩
    obtain ⟨column, found, top⟩ := exists_column tiling listed
    refine List.mem_map.mpr ⟨_, List.mem_flatMap.mpr ⟨column, found,
      Column.mem_singles.mpr ⟨z, deep, rfl⟩⟩, ?_⟩
    rw [top]
    rfl

theorem gathersColumns (planned : query.singles tiling = .ok singles) :
    GathersColumns tiling (query.dim0s.zip query.dim1s) singles := by
  have ids := mem_ids_iff planned
  have ascending := singles_ascending planned
  obtain ⟨pairs, paired, within, rfl⟩ := singles_eq_ok.mp planned
  obtain ⟨_, rfl⟩ := pairs_eq_ok.mp paired
  have each (single : Single)
      (member : single ∈ (Column.ofTraces (traces tiling (query.dim0s.zip query.dim1s))).flatMap
        fun column => column.singles (tiling.count .depth)) :
      single.Gathers tiling (query.dim0s.zip query.dim1s) := by
    obtain ⟨column, found, here⟩ := List.mem_flatMap.mp member
    exact gathers_of_mem_singles found here
  refine ⟨within, ascending, ids, each, ?_⟩
  intro single member other otherMember same
  exact (each single member).alike (each other otherMember) same

end CurtainQuery

/-! ## Main result -/

/-- The task reads a volume, and its singles hold the traces of a polyline by the
columns of that volume. -/
structure CurtainTask.Gathers (task : CurtainTask) (pairs : List (Nat × Nat)) (name : String)
    (tiling : Tiling) : Prop where
  reads : task.base.Reads name tiling
  tiled : task.base.tiling = .ok tiling
  columns : GathersColumns tiling pairs task.ids

/-- The plan of a curtain has a task for the data volume and one for every recorded
attribute, and each holds the traces of the polyline by the columns of its own volume. -/
theorem curtains_gather_columns
    (query : CurtainQuery) (tasks : List CurtainTask) (planned : query.tasks = .ok tasks) :
    query.dim0s.length = query.dim1s.length ∧
    ∃ tiling data rest, tasks = data :: rest ∧
      Planned query.base.manifest query.base.attributes
        (fun name volume task => task.Gathers (query.dim0s.zip query.dim1s) name volume)
        tiling data rest := by
  obtain ⟨tiling, data, rest, rfl, plan⟩ := CurtainQuery.tasks_eq_ok planned
  obtain ⟨pairs, paired, _⟩ := CurtainQuery.singles_eq_ok.mp plan.data.ids
  refine ⟨(CurtainQuery.pairs_eq_ok.mp paired).1, tiling, data, rest, rfl, ?_⟩
  apply plan.imp
  · intro name volume task extracts
    exact ⟨extracts.reads, extracts.reads.tiling_eq, CurtainQuery.gathersColumns extracts.ids⟩
  · intro name volume task gathers
    exact gathers.reads

/-- The small curtain leaves a column and comes back to it, in the data as well as in
its attribute. -/
theorem smallCurtain_gathers_columns :
    ∃ tiling data rest,
      CurtainQuery.tasks
          { smallCurtain with base := { smallBase with attributes := ["cdpx", "cdpy"] } } =
        .ok (data :: rest) ∧
      Planned smallSurvey ["cdpx", "cdpy"]
        (fun name volume task => task.Gathers [(2, 1), (0, 0), (2, 0)] name volume)
        tiling data rest := by
  have planned := smallCurtain_tasks
  obtain ⟨_, tiling, data, rest, same, gathers⟩ := curtains_gather_columns _ _ planned
  rw [same] at planned
  exact ⟨tiling, data, rest, planned, gathers⟩

end SurveyCube
