import SurveyCube.Proofs.Columns
import SurveyCube.Proofs.Plan

/-!
# Plans of curtains

* A plan exists only if all traces lie in the cube, and its singles are those of
  the columns of the traces.
* `CurtainTask.Extracts` says which volume a task of the plan reads, and that
  its singles are those of the query.
-/

namespace SurveyCube

/-! ## Singles -/

namespace CurtainQuery

variable {query : CurtainQuery}

theorem singles_eq_ok {tiling : Tiling} {singles : List Single} :
    query.singles tiling = .ok singles ↔
      ∃ pairs, query.pairs = .ok pairs ∧ (∀ pair ∈ pairs, (Trace.top pair).Within tiling.cube) ∧
        (Column.ofTraces (traces tiling pairs)).flatMap
          (fun column => column.singles (tiling.count .depth)) = singles := by
  constructor
  · intro planned
    obtain ⟨pairs, paired, planned⟩ := bind_eq_ok.mp planned
    obtain ⟨found, each, planned⟩ := bind_eq_ok.mp planned
    obtain ⟨inside, rfl⟩ := mapM_locate_eq_ok.mp each
    rw [Single.gather_visits (listed_traces tiling pairs)] at planned
    exact ⟨pairs, paired, inside, pure_eq_ok.mp planned⟩
  · rintro ⟨pairs, paired, inside, rfl⟩
    rw [← Single.gather_visits (listed_traces tiling pairs)]
    exact bind_eq_ok.mpr ⟨pairs, paired,
      bind_eq_ok.mpr ⟨_, mapM_locate_eq_ok.mpr ⟨inside, rfl⟩, rfl⟩⟩

/-- A single names a fragment in the grid, a trace of the polyline and places
in a fragment. -/
theorem of_mem_singles
    {tiling : Tiling} {singles : List Single} (planned : query.singles tiling = .ok singles)
    {single : Single} (member : single ∈ singles) :
    single.id.Within tiling.counts ∧ single.offset < query.dim0s.length ∧
      ∀ place ∈ single.coordinates, place.1 < tiling.fragment.x ∧ place.2 < tiling.fragment.y := by
  obtain ⟨pairs, paired, inside, rfl⟩ := singles_eq_ok.mp planned
  obtain ⟨even, rfl⟩ := pairs_eq_ok.mp paired
  obtain ⟨column, found, here⟩ := List.mem_flatMap.mp member
  obtain ⟨z, deep, rfl⟩ := Column.mem_singles.mp here
  obtain ⟨trace, traced, top, first⟩ := Column.exists_trace_of_mem found
  obtain ⟨pair, position, listed, rfl⟩ := mem_traces.mp traced
  refine ⟨?_, ?_, ?_⟩
  · obtain ⟨x, y, _⟩ := Tiling.rootOf_within (inside pair (List.mem_of_getElem? listed))
    rw [← top]
    exact ⟨x, y, deep⟩
  · obtain ⟨below, _⟩ := List.getElem?_eq_some_iff.mp listed
    rw [List.length_zip] at below
    rw [← first]
    exact Nat.lt_of_lt_of_le below (Nat.min_le_left _ _)
  · intro place covered
    obtain ⟨other, traced, _, same⟩ := Column.exists_trace_of_place found covered
    obtain ⟨pair, position, _, rfl⟩ := mem_traces.mp traced
    obtain ⟨x, y, _⟩ := tiling.localOf_within (Trace.top pair)
    rw [← same]
    exact ⟨x, y⟩

end CurtainQuery

/-! ## Tasks -/

/-- The task extracts the traces of a query from one volume. -/
structure CurtainTask.Extracts (task : CurtainTask) (query : CurtainQuery) (name : String)
    (tiling : Tiling) : Prop where
  reads : task.base.Reads name tiling
  ids : query.singles tiling = .ok task.ids

theorem CurtainTask.Extracts.fitWords
    {task : CurtainTask} {query : CurtainQuery} {name : String} {tiling : Tiling}
    (extracts : task.Extracts query name tiling)
    (words : SurveyCube.fitWords tiling.cube = true ∧ SurveyCube.fitWords tiling.fragment = true)
    (short : query.dim0s.length < wordLimit) : SurveyCube.fitWords task = true := by
  rw [CurtainTask.fitWords_iff]
  refine ⟨extracts.reads.fitWords words.1 words.2, ?_⟩
  rw [fitWords_list_iff]
  intro single member
  obtain ⟨grid, position, places⟩ := CurtainQuery.of_mem_singles extracts.ids member
  obtain ⟨x, y, _⟩ := fitWords_triple_iff.mp words.2
  rw [Single.fitWords_iff]
  refine ⟨Tiling.fitWords_of_within_counts words.1 grid, ?_, ?_⟩
  · rw [fitWords_nat_iff]
    exact Nat.lt_trans position short
  · rw [fitWords_list_iff]
    intro place inside
    obtain ⟨first, second⟩ := places place inside
    exact fitWords_pair_iff.mpr ⟨Nat.lt_trans first x, Nat.lt_trans second y⟩

namespace CurtainQuery

variable {query : CurtainQuery}

/-- The task extracts the traces of the query from one volume. -/
def Extracts (query : CurtainQuery) (name : String) (tiling : Tiling) (task : CurtainTask) :
    Prop :=
  task.Extracts query name tiling

theorem attributeTask_extracts
    {desc : AttributeDesc} {task : CurtainTask} (built : query.attributeTask desc = .ok task) :
    ∃ layer, query.base.manifest.attributeTiling desc = .ok layer ∧
      query.Extracts desc.name layer task := by
  obtain ⟨base, shared, built⟩ := bind_eq_ok.mp built
  obtain ⟨layer, tiled, built⟩ := bind_eq_ok.mp built
  obtain ⟨ids, found, built⟩ := bind_eq_ok.mp built
  obtain ⟨reads, recorded⟩ := TaskBase.ofAttribute_reads shared tiled
  have same := pure_eq_ok.mp built
  subst same
  exact ⟨layer, recorded, reads, found⟩

theorem tasks_eq_ok {tasks : List CurtainTask} (planned : query.tasks = .ok tasks) :
    ∃ tiling data rest, tasks = data :: rest ∧
      Planned query.base.manifest query.base.attributes query.Extracts tiling data rest := by
  obtain ⟨tiling, tiled, planned⟩ := bind_eq_ok.mp planned
  obtain ⟨base, shared, planned⟩ := bind_eq_ok.mp planned
  obtain ⟨ids, found, planned⟩ := bind_eq_ok.mp planned
  obtain ⟨rest, attributes, planned⟩ := bind_eq_ok.mp planned
  have reads := TaskBase.ofData_reads shared tiled
  refine ⟨tiling, { base, ids }, rest, (pure_eq_ok.mp planned).symm, tiled, ?_, ⟨reads, found⟩, ?_⟩
  · intro name tiling task extracts
    exact extracts.reads
  · exact (mapM_eq_ok.mp attributes).imp fun _ _ built => attributeTask_extracts built

theorem fitWords_tasks {tasks : List CurtainTask} (planned : query.tasks = .ok tasks)
    (words : fitWords query = true) : ∀ task ∈ tasks, fitWords task = true := by
  obtain ⟨tiling, data, rest, rfl, plan⟩ := tasks_eq_ok planned
  obtain ⟨manifest, short, _⟩ := fitWords_iff.mp words
  have below : query.dim0s.length < wordLimit := by
    rw [fitsLength_iff] at short
    exact Nat.lt_trans short (by decide)
  intro task member
  obtain ⟨name, volume, extracts, fits⟩ := plan.exists_volume manifest task member
  exact extracts.fitWords fits below

end CurtainQuery

end SurveyCube
