import SurveyCube.Proofs.Schedule
import SurveyCube.Proofs.TaskCount
import SurveyCube.Proofs.Validation

/-!
# When queries are accepted

Whether a query is accepted is decided by a short list of needs: a valid
manifest, a place of the query inside the cube, a positive task size and a
number of blocks that comes out.  They are examined in this order.

* `SliceQuery.needs` and `CurtainQuery.needs` are the lists.
* Attributes, headers and envelopes appear in none of them: once a valid
  manifest has a plan for the data volume, nothing of these can fail.
-/

namespace SurveyCube

/-! ## Line numbers and volumes of valid manifests -/

namespace Manifest

variable {manifest : Manifest}

/-- The number of lines along the axis with a number. -/
def lineCount (manifest : Manifest) (dim : Nat) : Nat :=
  (manifest.lineNumbers[dim]?.getD []).length

theorem lineCount_index {tiling : Tiling} (tiled : manifest.tiling = .ok tiling) (axis : Axis) :
    manifest.lineCount axis.index = tiling.cube.get axis := by
  obtain ⟨inlines, crosslines, depths, lines, cube⟩ :=
    cubeShape_eq_ok.mp (tiling_eq_ok.mp tiled).1
  rw [lineCount, lines, cube]
  cases axis <;> rfl

theorem exists_dimension (axes : manifest.lineNumbers.length = 3) (axis : Axis) :
    ∃ lines, manifest.dimension axis = .ok lines ∧
      lines.length = manifest.lineCount axis.index := by
  have below : axis.index < manifest.lineNumbers.length := by
    rw [axes]
    cases axis <;> decide
  have stored := List.getElem?_eq_getElem below
  refine ⟨_, dimension_eq_ok.mpr stored, ?_⟩
  rw [lineCount, stored, Option.getD_some]

theorem exists_lineNumber
    {index : Nat} (axes : manifest.lineNumbers.length = 3) (axis : Axis)
    (inside : index < manifest.lineCount axis.index) :
    ∃ line, manifest.lineNumber axis index = .ok line := by
  obtain ⟨lines, found, length⟩ := exists_dimension axes axis
  rw [← length] at inside
  have stored := dimension_eq_ok.mp found
  exact ⟨_, lineNumber_eq_ok.mpr ⟨lines, stored, List.getElem?_eq_getElem inside⟩⟩

/-- A manifest has to be valid, and its validation says what is wrong with it. -/
def validNeed (manifest : Manifest) : Need where
  met := manifest.validate = .ok ()
  blames fault := manifest.validate = .error fault ∧
    (fault.kind = .unsupportedFormatVersion Fault.formatVersion ∨ fault.kind = .invalidDocument)

theorem validate_governed (manifest : Manifest) :
    Governs [manifest.validNeed] manifest.validate := by
  apply Governs.of_need
  · intro met
    exact ⟨(), met⟩
  · intro unmet
    cases validated : manifest.validate with
    | ok done => exact absurd validated unmet
    | error fault =>
        refine ⟨fault, rfl, validated, ?_⟩
        rcases kind_of_validate_eq_error validated with ⟨_, rfl⟩ | ⟨_, invalid⟩
        · exact Or.inl rfl
        · exact Or.inr invalid

end Manifest

namespace TaskBase

theorem exists_ofData
    {query : QueryBase} {tiling : Tiling} (tiled : query.manifest.tiling = .ok tiling)
    (function : Function) : ∃ base, ofData query function = .ok base := by
  obtain ⟨measured, stored⟩ := Manifest.tiling_eq_ok.mp tiled
  obtain ⟨volume, found, _⟩ := bind_eq_ok.mp stored
  rw [ofData, found, ok_bind, stored, ok_bind, measured, ok_bind]
  exact ⟨_, rfl⟩

theorem exists_ofAttribute
    {query : QueryBase} {desc : AttributeDesc} {layer : Tiling}
    (tiled : query.manifest.attributeTiling desc = .ok layer) (function : Function) :
    ∃ base, ofAttribute query function desc = .ok base ∧ base.tiling = .ok layer := by
  obtain ⟨measured, stored⟩ := Manifest.attributeTiling_eq_ok.mp tiled
  rw [ofAttribute, stored, ok_bind, measured, ok_bind]
  exact ⟨_, rfl, Manifest.tile_eq_ok.mpr ⟨rfl, rfl⟩⟩

end TaskBase

theorem Manifest.Valid.exists_layer
    {manifest : Manifest} (valid : manifest.Valid) {names : List String} {desc : AttributeDesc}
    (requested : desc ∈ manifest.recorded names) :
    ∃ layer, manifest.attributeTiling desc = .ok layer := by
  obtain ⟨name, _, found⟩ := Manifest.mem_recorded.mp requested
  exact valid.layered desc (Manifest.attribute?_eq_some found).1

theorem Axis.ofIndex_governed (index : Nat) :
    Governs [.ofKind (index < 3) .outOfRange] (Axis.ofIndex index) := by
  unfold Axis.ofIndex
  apply Governs.of_need
  · intro few
    match index, few with
    | 0, _ | 1, _ | 2, _ => exact ⟨_, rfl⟩
  · intro many
    rw [Axis.ofIndex?_eq_none_iff.mpr (Nat.le_of_not_lt many)]
    exact ⟨_, rfl, rfl⟩

/-! ## Plans of slices -/

namespace SliceQuery

variable {query : SliceQuery}

theorem taskOf_governed
    (query : SliceQuery) (base : TaskBase) (tiling : Tiling) (axis : Axis) (index : Nat) :
    Governs [.ofKind (index < tiling.cube.get axis) .outOfRange]
      (query.taskOf base tiling axis index) := by
  have cut : Governs [.ofKind (index < tiling.cube.get axis) .outOfRange]
      (tiling.slice axis index) := by
    apply Governs.of_need
    · intro inside
      exact ⟨_, if_pos inside⟩
    · intro outside
      exact ⟨_, if_neg outside, rfl⟩
  apply cut.bind_of_ok
  intro ids _
  exact ⟨_, rfl⟩

theorem exists_attributeTask
    {desc : AttributeDesc} {layer : Tiling}
    (layered : query.base.manifest.attributeTiling desc = .ok layer) (axis : Axis) :
    ∃ task, query.attributeTask axis desc = .ok task := by
  obtain ⟨base, shared, tiled⟩ := TaskBase.exists_ofAttribute layered .slice
  -- The index of the slice wraps around, so that it lies in every layer.
  have wrapped : query.idx % layer.cube.get axis < layer.cube.get axis :=
    Nat.mod_lt _ (layer.cube_get_pos axis)
  rw [attributeTask, shared, ok_bind, tiled, ok_bind]
  exact (taskOf_governed query base layer axis _).succeeds_iff_met.mpr wrapped

/-- The plane of a slice has to lie in the cube. -/
def planNeeds (query : SliceQuery) : List Need := [
  .ofKind (query.dim < 3) .outOfRange,
  .ofKind (query.idx < query.base.manifest.lineCount query.dim) .outOfRange]

theorem tasks_governed (query : SliceQuery) (valid : query.base.manifest.Valid) :
    Governs query.planNeeds query.tasks := by
  obtain ⟨tiling, tiled⟩ := valid.tiled
  obtain ⟨base, shared⟩ := TaskBase.exists_ofData tiled .slice
  apply Governs.of_ok_bind tiled
  change Governs ([_] ++ [_]) _
  apply (Axis.ofIndex_governed query.dim).bind
  intro axis found
  have along : query.dim = axis.index := Axis.ofIndex_eq_ok.mp found
  rw [along, Manifest.lineCount_index tiled]
  apply Governs.of_ok_bind shared
  apply (taskOf_governed query base tiling axis query.idx).bind_of_ok
  intro data _
  obtain ⟨rest, attributes⟩ := exists_mapM_eq_ok fun _ requested =>
    (valid.exists_layer requested).elim fun _ layered => exists_attributeTask layered axis
  rw [attributes, ok_bind]
  exact ⟨_, rfl⟩

theorem exists_header (query : SliceQuery) (valid : query.base.manifest.Valid)
    (met : ∀ need ∈ query.planNeeds, need.met) (ntasks : Nat) :
    ∃ header, query.header ntasks = .ok header := by
  rw [planNeeds, List.forall_mem_cons, List.forall_mem_singleton] at met
  obtain ⟨few, inside⟩ := met
  obtain ⟨axis, found⟩ := (Axis.ofIndex_governed query.dim).succeeds_iff_met.mpr few
  have along : query.dim = axis.index := Axis.ofIndex_eq_ok.mp found
  have below : query.idx < query.base.manifest.lineCount axis.index := by
    rw [← along]
    exact inside
  obtain ⟨line, numbered⟩ := Manifest.exists_lineNumber valid.axes axis below
  have each : ∀ other ∈ Axis.all, ∃ lines, query.outputLines axis line other = .ok lines := by
    intro other _
    by_cases queried : other = axis
    · exact ⟨_, if_pos queried⟩
    · obtain ⟨lines, kept, _⟩ := Manifest.exists_dimension valid.axes other
      refine ⟨lines, ?_⟩
      rw [outputLines, if_neg queried, kept]
  obtain ⟨lines, collected⟩ := exists_mapM_eq_ok each
  exact ⟨_, header_eq_ok.mpr ⟨axis, line, lines, along, numbered, collected, rfl⟩⟩

end SliceQuery

/-! ## Plans of curtains -/

namespace CurtainQuery

variable {query : CurtainQuery}

theorem pairs_governed (query : CurtainQuery) :
    Governs [.ofKind (query.dim0s.length = query.dim1s.length) .invalidDocument] query.pairs := by
  apply Governs.of_need
  · intro even
    exact ⟨_, if_pos even⟩
  · intro ragged
    exact ⟨_, if_neg ragged, rfl⟩

theorem locate_governed (tiling : Tiling) (pair : Nat × Nat) (position : Nat) :
    Governs [.ofKind ((Trace.top pair).Within tiling.cube) .outOfRange]
      (Trace.locate tiling pair position) := by
  have inside : Governs [.ofKind ((Trace.top pair).Within tiling.cube) .outOfRange]
      (tiling.inside (Trace.top pair)) := by
    apply Governs.of_need
    · intro within
      exact ⟨_, if_pos within⟩
    · intro outside
      exact ⟨_, if_neg outside, rfl⟩
  apply inside.bind_of_ok
  intro top _
  exact ⟨_, rfl⟩

theorem traces_governed (tiling : Tiling) (pairs : List (Nat × Nat)) :
    Governs [.ofKind (∀ pair ∈ pairs, (Trace.top pair).Within tiling.cube) .outOfRange]
      (pairs.zipIdx.mapM fun (pair, position) => Trace.locate tiling pair position) := by
  have listed : (∀ pair ∈ pairs.zipIdx.map Prod.fst, (Trace.top pair).Within tiling.cube) ↔
      ∀ item ∈ pairs.zipIdx, (Trace.top item.1).Within tiling.cube := List.forall_mem_map
  rw [List.zipIdx_map_fst] at listed
  have each : ∀ item : (Nat × Nat) × Nat, Governs _ (Trace.locate tiling item.1 item.2) :=
    fun item => locate_governed tiling item.1 item.2
  exact (Governs.mapM each).congr listed

/-- The traces of a polyline lie in the cube if both of its lists do. -/
theorem forall_top_within_iff {tiling : Tiling} {dim0s dim1s : List Nat}
    (even : dim0s.length = dim1s.length) :
    (∀ pair ∈ dim0s.zip dim1s, (Trace.top pair).Within tiling.cube) ↔
      (∀ i ∈ dim0s, i < tiling.cube.get .inline) ∧
        ∀ i ∈ dim1s, i < tiling.cube.get .crossline := by
  have inlines : (∀ i ∈ (dim0s.zip dim1s).map Prod.fst, i < tiling.cube.get .inline) ↔
      ∀ pair ∈ dim0s.zip dim1s, pair.1 < tiling.cube.get .inline := List.forall_mem_map
  have crosslines : (∀ i ∈ (dim0s.zip dim1s).map Prod.snd, i < tiling.cube.get .crossline) ↔
      ∀ pair ∈ dim0s.zip dim1s, pair.2 < tiling.cube.get .crossline := List.forall_mem_map
  rw [List.map_fst_zip (Nat.le_of_eq even)] at inlines
  rw [List.map_snd_zip (Nat.le_of_eq even.symm)] at crosslines
  rw [inlines, crosslines]
  constructor
  · intro within
    exact ⟨fun pair member => (within pair member).1, fun pair member => (within pair member).2.1⟩
  · rintro ⟨first, second⟩ pair member
    exact ⟨first pair member, second pair member, tiling.cube_pos.2.2⟩

/-- The polyline of a curtain has to be one, and to lie in the cube. -/
def planNeeds (query : CurtainQuery) : List Need := [
  .ofKind (query.dim0s.length = query.dim1s.length) .invalidDocument,
  .ofKind ((∀ i ∈ query.dim0s, i < query.base.manifest.lineCount 0) ∧
    ∀ i ∈ query.dim1s, i < query.base.manifest.lineCount 1) .outOfRange]

theorem singles_governed {tiling : Tiling} (tiled : query.base.manifest.tiling = .ok tiling) :
    Governs query.planNeeds (query.singles tiling) := by
  change Governs ([_] ++ [_]) _
  apply query.pairs_governed.bind
  intro pairs paired
  obtain ⟨even, rfl⟩ := pairs_eq_ok.mp paired
  have inlines : query.base.manifest.lineCount 0 = tiling.cube.get .inline :=
    Manifest.lineCount_index tiled .inline
  have crosslines : query.base.manifest.lineCount 1 = tiling.cube.get .crossline :=
    Manifest.lineCount_index tiled .crossline
  rw [inlines, crosslines]
  have located := (traces_governed tiling (query.dim0s.zip query.dim1s)).congr
    (forall_top_within_iff even).symm
  apply located.bind_of_ok
  intro traces _
  exact ⟨_, rfl⟩

/-- A polyline in the cube passes through every layer of the cube. -/
theorem exists_singles_layer
    {tiling layer : Tiling} {singles : List Single} (planned : query.singles tiling = .ok singles)
    (cube : layer.cube = tiling.cube.withZ 1) :
    ∃ others, query.singles layer = .ok others := by
  obtain ⟨pairs, paired, inside, _⟩ := singles_eq_ok.mp planned
  refine ⟨_, singles_eq_ok.mpr ⟨pairs, paired, ?_, rfl⟩⟩
  intro pair member
  obtain ⟨x, y, _⟩ := inside pair member
  rw [cube]
  exact ⟨x, y, Nat.one_pos⟩

theorem exists_attributeTask
    {tiling layer : Tiling} {singles : List Single} {desc : AttributeDesc}
    (tiled : query.base.manifest.tiling = .ok tiling)
    (planned : query.singles tiling = .ok singles)
    (layered : query.base.manifest.attributeTiling desc = .ok layer) :
    ∃ task, query.attributeTask desc = .ok task := by
  obtain ⟨base, shared, same⟩ := TaskBase.exists_ofAttribute layered .curtain
  obtain ⟨others, found⟩ :=
    exists_singles_layer planned (Manifest.cube_of_attributeTiling tiled layered)
  rw [attributeTask, shared, ok_bind, same, ok_bind, found, ok_bind]
  exact ⟨_, rfl⟩

theorem tasks_governed (query : CurtainQuery) (valid : query.base.manifest.Valid) :
    Governs query.planNeeds query.tasks := by
  obtain ⟨tiling, tiled⟩ := valid.tiled
  obtain ⟨base, shared⟩ := TaskBase.exists_ofData tiled .curtain
  apply Governs.of_ok_bind tiled
  apply Governs.of_ok_bind shared
  apply (singles_governed tiled).bind_of_ok
  intro singles planned
  obtain ⟨rest, attributes⟩ := exists_mapM_eq_ok fun _ requested =>
    (valid.exists_layer requested).elim fun _ => exists_attributeTask tiled planned
  rw [attributes, ok_bind]
  exact ⟨_, rfl⟩

theorem exists_header (query : CurtainQuery) (valid : query.base.manifest.Valid)
    (met : ∀ need ∈ query.planNeeds, need.met) (ntasks : Nat) :
    ∃ header, query.header ntasks = .ok header := by
  rw [planNeeds, List.forall_mem_cons, List.forall_mem_singleton] at met
  obtain ⟨even, inlines, crosslines⟩ := met
  obtain ⟨depth, found, _⟩ := Manifest.exists_dimension valid.axes .depth
  obtain ⟨along, first⟩ := exists_mapM_eq_ok fun i member =>
    Manifest.exists_lineNumber valid.axes .inline (inlines i member)
  obtain ⟨across, second⟩ := exists_mapM_eq_ok fun i member =>
    Manifest.exists_lineNumber valid.axes .crossline (crosslines i member)
  exact ⟨_, header_eq_ok.mpr ⟨even, along, across, depth, first, second, found, rfl⟩⟩

end CurtainQuery

/-! ## Queries -/

section Queries

variable {α τ ι : Type} [Schedulable α τ] [Divisible τ ι]

/-- The task size has to be positive, and the number of blocks of the plan has
to come out. -/
def divisionNeeds (query : α) (taskSize : Nat) : List Need := [
  .ofKind (1 ≤ taskSize) .invalidArgument,
  .ofKind (∀ tasks, Schedulable.tasks (Schedulable.normalized query) = .ok tasks →
    Countable taskSize tasks) .overflow]

variable [Serial τ]

theorem partition_governed_of_planned {query : α} {tasks : List τ}
    (planned : Schedulable.tasks (Schedulable.normalized query) = .ok tasks) (taskSize : Nat) :
    Governs (divisionNeeds query taskSize) (partition tasks taskSize) := by
  have only : (∀ others, Schedulable.tasks (Schedulable.normalized query) = .ok others →
      Countable taskSize others) = Countable taskSize tasks := by
    simp [planned]
  rw [divisionNeeds, only]
  exact partition_governed taskSize tasks

variable [Words α] [Words τ] [LawfulSchedulable α]

/-- Scheduling needs a valid manifest, what the plan needs, and what dividing
the plan needs. -/
theorem scheduleQuery_governed
    (query : α) (plan : List Need)
    (planned : (Schedulable.base query).manifest.Valid →
      Governs plan (Schedulable.tasks (Schedulable.normalized query)))
    (headed : (Schedulable.base query).manifest.Valid → (∀ need ∈ plan, need.met) →
      ∀ ntasks, ∃ header, Schedulable.header (Schedulable.normalized query) ntasks = .ok header)
    (taskSize : Nat) :
    Governs ([(Schedulable.base query).manifest.validNeed] ++
        (plan ++ divisionNeeds query taskSize))
      (scheduleQuery query taskSize) := by
  apply (Schedulable.base query).manifest.validate_governed.bind
  intro _ validated
  have valid := Manifest.valid_of_validate validated
  apply (planned valid).bind
  intro tasks built
  apply (partition_governed_of_planned built taskSize).bind_of_ok
  intro set divided
  have met : ∀ need ∈ plan, need.met := (planned valid).succeeds_iff.mp ⟨tasks, built⟩
  obtain ⟨header, described⟩ := headed valid met set.count
  -- The header announces the blocks that were counted, and their number is bounded.
  have countable : Countable taskSize tasks := by
    have needs := (partition_governed taskSize tasks).succeeds_iff.mp ⟨set, divided⟩
    rw [partitionNeeds, List.forall_mem_cons, List.forall_mem_singleton] at needs
    exact needs.2
  have few : header.bundles ≤ maxListLength := by
    rw [LawfulSchedulable.bundles_header described, count_partition divided]
    exact countable.total
  have packed : Envelope.pack header = .ok _ := Envelope.pack_eq_ok.mpr ⟨few, rfl⟩
  rw [described, ok_bind, packed, ok_bind]
  exact ⟨_, rfl⟩

end Queries

/-- What a slice needs to be accepted, in the order of examination. -/
def SliceQuery.needs (query : SliceQuery) (taskSize : Nat) : List Need := [
  query.base.manifest.validNeed,
  .ofKind (query.dim < 3) .outOfRange,
  .ofKind (query.idx < query.base.manifest.lineCount query.dim) .outOfRange,
  .ofKind (1 ≤ taskSize) .invalidArgument,
  .ofKind (∀ tasks, Schedulable.tasks (Schedulable.normalized query) = .ok tasks →
    Countable taskSize tasks) .overflow]

/-- What a curtain needs to be accepted, in the order of examination. -/
def CurtainQuery.needs (query : CurtainQuery) (taskSize : Nat) : List Need := [
  query.base.manifest.validNeed,
  .ofKind (query.dim0s.length = query.dim1s.length) .invalidDocument,
  .ofKind ((∀ i ∈ query.dim0s, i < query.base.manifest.lineCount 0) ∧
    ∀ i ∈ query.dim1s, i < query.base.manifest.lineCount 1) .outOfRange,
  .ofKind (1 ≤ taskSize) .invalidArgument,
  .ofKind (∀ tasks, Schedulable.tasks (Schedulable.normalized query) = .ok tasks →
    Countable taskSize tasks) .overflow]

/-- A slice is accepted exactly if its needs are met, and is otherwise refused for
the first that is not. -/
theorem SliceQuery.governed_by_needs (query : SliceQuery) (taskSize : Nat) :
    Governs (query.needs taskSize) (scheduleQuery query taskSize) :=
  scheduleQuery_governed query query.planNeeds
    (tasks_governed (Schedulable.normalized query))
    (exists_header (Schedulable.normalized query)) taskSize

/-- A curtain is accepted exactly if its needs are met, and is otherwise refused for
the first that is not. -/
theorem CurtainQuery.governed_by_needs (query : CurtainQuery) (taskSize : Nat) :
    Governs (query.needs taskSize) (scheduleQuery query taskSize) :=
  scheduleQuery_governed query query.planNeeds
    (tasks_governed (Schedulable.normalized query))
    (exists_header (Schedulable.normalized query)) taskSize

end SurveyCube
