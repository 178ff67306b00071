import SurveyCube.Proofs.RequestedNames
import SurveyCube.Proofs.Room

/-!
# Attribute volumes follow the data volume

A plan adds a task for every recorded attribute to the task for the data volume.  Each is
made on its own: from the query without its attributes, and from the description of the
one volume.

* `PlansVolumes` says what this means for a query.  Attributes do not decide whether
  there is a plan, and the tasks that a plan already has stay as they are when other
  attributes are asked for or recorded.
* `assemble` is the shape that the plans of slices and of curtains share.
* Room is asked for by the tasks alone: a slice needs room for the ids that it lists, and
  the attributes of a curtain need none.
-/

namespace SurveyCube

/-! ## Shared parts of tasks -/

/-- The shared part of a task is made from a query and from one volume of this name,
place and tiling. -/
structure TaskBase.Serves (base : TaskBase) (query : QueryBase) (function : Function)
    (name storagePrefix fileExtension : String) (tiling : Except Fault Tiling) : Prop where
  pid : base.pid = query.pid
  token : base.token = query.token
  guid : base.guid = query.guid
  storageEndpoint : base.storageEndpoint = query.storageEndpoint
  function : base.function = function
  named : base.attributeName = name
  storagePrefix : base.storagePrefix = storagePrefix
  fileExtension : base.fileExtension = fileExtension
  tiling : base.tiling = tiling

namespace TaskBase

variable {query : QueryBase} {function : Function} {base : TaskBase}

/-- The shared part serves the data volume. -/
def ServesData (base : TaskBase) (query : QueryBase) (function : Function) : Prop :=
  ∃ volume, query.manifest.dataVolume = .ok volume ∧
    base.Serves query function dataAttribute volume.storagePrefix volume.fileExtension
      query.manifest.tiling

/-- The shared part serves an attribute volume. -/
def ServesAttribute (base : TaskBase) (query : QueryBase) (function : Function)
    (desc : AttributeDesc) : Prop :=
  base.Serves query function desc.name desc.storagePrefix desc.fileExtension
    (query.manifest.attributeTiling desc)

theorem ofData_serves (built : ofData query function = .ok base) :
    base.ServesData query function := by
  obtain ⟨volume, first, built⟩ := bind_eq_ok.mp built
  obtain ⟨fragment, stored, built⟩ := bind_eq_ok.mp built
  obtain ⟨cube, measured, built⟩ := bind_eq_ok.mp built
  have same := pure_eq_ok.mp built
  have tiled : query.manifest.tiling = Manifest.tile cube fragment := by
    rw [Manifest.tiling, measured, ok_bind, stored, ok_bind]
  rw [ServesData, tiled]
  subst same
  exact ⟨volume, first, rfl, rfl, rfl, rfl, rfl, rfl, rfl, rfl, rfl⟩

theorem ofAttribute_serves {desc : AttributeDesc}
    (built : ofAttribute query function desc = .ok base) :
    base.ServesAttribute query function desc := by
  obtain ⟨fragment, stored, built⟩ := bind_eq_ok.mp built
  obtain ⟨cube, measured, built⟩ := bind_eq_ok.mp built
  have same := pure_eq_ok.mp built
  have tiled : query.manifest.attributeTiling desc = Manifest.tile cube fragment := by
    rw [Manifest.attributeTiling, measured, ok_bind, stored, ok_bind]
  rw [ServesAttribute, tiled]
  subst same
  exact ⟨rfl, rfl, rfl, rfl, rfl, rfl, rfl, rfl, rfl⟩

end TaskBase

/-- The same query with other attribute names, for a survey that records other
attributes. -/
def QueryBase.recording (base : QueryBase) (names : List String) (descs : List AttributeDesc) :
    QueryBase :=
  { base.asking names with manifest := { base.manifest with attributes := descs } }

/-! ## Plans -/

section Plans

variable {τ ι : Type} [Divisible τ ι] [VolumeTask τ]

/-- Attributes do not decide whether a query has a plan, or what is wrong with it.  A plan
has a task for the data volume and, in the order of the names, one for every recorded
attribute, and it has the same tasks for the same volumes whatever attributes are asked
for and recorded besides. -/
structure PlansVolumes (base : QueryBase) (function : Function)
    (plan : QueryBase → Except Fault (List τ)) : Prop where
  planned_iff : (∃ tasks, plan base = .ok tasks) ↔ ∃ tasks, plan (base.asking []) = .ok tasks
  refused_iff : ∀ fault, plan base = .error fault ↔ plan (base.asking []) = .error fault
  volumes : ∀ tasks, plan base = .ok tasks → ∃ (data : τ) (layer : AttributeDesc → τ),
    tasks = data :: (base.manifest.recorded base.attributes).map layer ∧
    (VolumeTask.base data).ServesData base function ∧
    (∀ desc ∈ base.manifest.attributes,
      (VolumeTask.base (layer desc)).ServesAttribute base function desc) ∧
    ∀ names descs, (base.recording names descs).manifest.validate = .ok () →
      plan (base.recording names descs) =
        .ok (data :: ((base.recording names descs).manifest.recorded names).map layer)

/-- A task for the data volume and one for each of some attributes, all of which are made
in one step. -/
def assemble (front : Except Fault (τ × (AttributeDesc → Except Fault τ)))
    (descs : List AttributeDesc) : Except Fault (List τ) := do
  let made ← front
  let rest ← descs.mapM made.2
  return made.1 :: rest

omit [Divisible τ ι] [VolumeTask τ] in
theorem assemble_eq_ok
    {data : τ} {step : AttributeDesc → Except Fault τ} {layer : AttributeDesc → τ}
    {descs : List AttributeDesc} (each : ∀ desc ∈ descs, step desc = .ok (layer desc)) :
    assemble (.ok (data, step)) descs = .ok (data :: descs.map layer) := by
  rw [assemble, ok_bind]
  change descs.mapM step >>= _ = _
  rw [mapM_eq_ok_map each]
  rfl

/-- The data task and the step for attributes serve their volumes. -/
structure ServesVolumes (base : QueryBase) (function : Function) (data : τ)
    (step : AttributeDesc → Except Fault τ) : Prop where
  data : (VolumeTask.base data).ServesData base function
  step : ∀ desc layer, base.manifest.attributeTiling desc = .ok layer →
    ∃ task, step desc = .ok task ∧ (VolumeTask.base task).ServesAttribute base function desc

/-- The tasks of the step, for all volumes that have a tiling. -/
theorem ServesVolumes.exists_layer
    {base : QueryBase} {function : Function} {data : τ} {step : AttributeDesc → Except Fault τ}
    (serves : ServesVolumes base function data step) :
    ∃ layer : AttributeDesc → τ, ∀ desc tiling, base.manifest.attributeTiling desc = .ok tiling →
      step desc = .ok (layer desc) ∧
        (VolumeTask.base (layer desc)).ServesAttribute base function desc := by
  have each : ∀ desc, ∃ task, ∀ tiling, base.manifest.attributeTiling desc = .ok tiling →
      step desc = .ok task ∧ (VolumeTask.base task).ServesAttribute base function desc := by
    intro desc
    cases tiled : base.manifest.attributeTiling desc with
    | error fault => exact ⟨data, nofun⟩
    | ok tiling =>
        obtain ⟨task, found⟩ := serves.step desc tiling tiled
        exact ⟨task, fun _ _ => found⟩
  choose layer made using each
  exact ⟨layer, made⟩

theorem plansVolumes_of_front
    {base : QueryBase} {function : Function} {plan : QueryBase → Except Fault (List τ)}
    (front : Except Fault (τ × (AttributeDesc → Except Fault τ)))
    (validated : base.manifest.validate = .ok ())
    (assembled : ∀ names descs, plan (base.recording names descs) =
      assemble front ((base.recording names descs).manifest.recorded names))
    (serves : ∀ data step, front = .ok (data, step) → ServesVolumes base function data step) :
    PlansVolumes base function plan := by
  have whole : plan base = _ := assembled base.attributes base.manifest.attributes
  have bare : plan (base.asking []) = _ := assembled [] base.manifest.attributes
  cases front with
  | error fault =>
      -- Without a data task attributes are never looked at.
      have same : plan base = plan (base.asking []) := whole.trans bare.symm
      refine ⟨?_, ?_, ?_⟩
      · rw [same]
      · intro fault
        rw [same]
      · intro tasks planned
        rw [whole] at planned
        cases planned
  | ok pair =>
      obtain ⟨data, step⟩ := pair
      have served := serves data step rfl
      obtain ⟨layer, made⟩ := served.exists_layer
      have plans : ∀ names descs, (base.recording names descs).manifest.validate = .ok () →
          plan (base.recording names descs) =
            .ok (data :: ((base.recording names descs).manifest.recorded names).map layer) := by
        intro names descs valid
        rw [assembled]
        apply assemble_eq_ok
        intro desc recorded
        obtain ⟨tiling, tiled⟩ := (Manifest.valid_of_validate valid).exists_layer recorded
        exact (made desc tiling tiled).1
      have full : plan base = _ := plans base.attributes base.manifest.attributes validated
      have empty : plan (base.asking []) = _ := plans [] base.manifest.attributes validated
      refine ⟨?_, ?_, ?_⟩
      · exact ⟨fun _ => ⟨_, empty⟩, fun _ => ⟨_, full⟩⟩
      · intro fault
        rw [full, empty]
        exact ⟨nofun, nofun⟩
      · intro tasks planned
        have same := Except.ok.inj (full.symm.trans planned)
        refine ⟨data, layer, same.symm, served.data, ?_, plans⟩
        intro desc stored
        obtain ⟨tiling, tiled⟩ := (Manifest.valid_of_validate validated).layered desc stored
        exact (made desc tiling tiled).2

end Plans

/-! ## Slices -/

namespace SliceQuery

variable {query : SliceQuery}

/-- The data task of a slice and the step for its attributes. -/
def front (query : SliceQuery) :
    Except Fault (SliceTask × (AttributeDesc → Except Fault SliceTask)) := do
  let tiling ← query.base.manifest.tiling
  let axis ← Axis.ofIndex query.dim
  let base ← TaskBase.ofData query.base .slice
  let data ← query.taskOf base tiling axis query.idx
  return (data, query.attributeTask axis)

theorem tasks_eq_assemble (query : SliceQuery) :
    query.tasks = assemble query.front (query.base.manifest.recorded query.base.attributes) := by
  simp only [tasks, assemble, front, bind_assoc, pure_bind]

theorem base_of_taskOf
    {base : TaskBase} {tiling : Tiling} {axis : Axis} {index : Nat} {task : SliceTask}
    (built : query.taskOf base tiling axis index = .ok task) : task.base = base := by
  obtain ⟨ids, _, built⟩ := bind_eq_ok.mp built
  rw [← pure_eq_ok.mp built]

theorem attributeTask_serves {axis : Axis} {desc : AttributeDesc} {task : SliceTask}
    (built : query.attributeTask axis desc = .ok task) :
    task.base.ServesAttribute query.base .slice desc := by
  obtain ⟨base, shared, built⟩ := bind_eq_ok.mp built
  obtain ⟨layer, _, built⟩ := bind_eq_ok.mp built
  rw [base_of_taskOf built]
  exact TaskBase.ofAttribute_serves shared

theorem front_serves {data : SliceTask} {step : AttributeDesc → Except Fault SliceTask}
    (found : query.front = .ok (data, step)) : ServesVolumes query.base .slice data step := by
  obtain ⟨tiling, _, found⟩ := bind_eq_ok.mp found
  obtain ⟨axis, _, found⟩ := bind_eq_ok.mp found
  obtain ⟨base, shared, found⟩ := bind_eq_ok.mp found
  obtain ⟨task, cut, found⟩ := bind_eq_ok.mp found
  cases pure_eq_ok.mp found
  constructor
  · change data.base.ServesData _ _
    rw [base_of_taskOf cut]
    exact TaskBase.ofData_serves shared
  · intro desc layer layered
    obtain ⟨task, made⟩ := exists_attributeTask layered axis
    exact ⟨task, made, attributeTask_serves made⟩

theorem plansVolumes (validated : query.base.manifest.validate = .ok ()) :
    PlansVolumes query.base .slice fun base => { query with base }.tasks := by
  refine plansVolumes_of_front query.front validated ?_ fun _ _ => front_serves
  intro names descs
  exact tasks_eq_assemble _

/-- A planned slice ends for want of room exactly if one of its tasks lists more ids than
there can be in one piece. -/
theorem tasksInRoom_stops_of_planned {tasks : List SliceTask} (planned : query.tasks = .ok tasks) :
    (∃ stop, tasksInRoom query = .error stop) ↔
      ∃ task ∈ tasks, Reservation.limit < task.ids.length * 24 := by
  obtain ⟨axis, tiling, data, rest, along, inside, rfl, plan⟩ := tasks_eq_ok planned
  have layered : ∀ desc ∈ query.base.manifest.recorded query.base.attributes,
      ∃ layer, query.base.manifest.attributeTiling desc = .ok layer := by
    intro desc recorded
    obtain ⟨_, _, layer, tiled, _⟩ := exists_result_of_forall₂ plan.layers recorded
    exact ⟨layer, tiled⟩
  have asked : Reserving.reservations query = .ids tiling axis ::
      query.base.manifest.layerReservations axis
        (query.base.manifest.recorded query.base.attributes) :=
    reservations_of_lt plan.tiled (Axis.ofIndex_eq_ok.mpr along) inside
  rw [tasksInRoom_stops, asked, List.exists_mem_cons_iff, List.exists_mem_cons_iff,
    Reservation.bytes_ids plan.data.ids]
  apply or_congr Iff.rfl
  simp only [Manifest.mem_layerReservations layered]
  constructor
  · rintro ⟨_, ⟨desc, recorded, layer, tiled, rfl⟩, vast⟩
    obtain ⟨task, member, other, same, extracts⟩ := exists_result_of_forall₂ plan.layers recorded
    obtain rfl : layer = other := Except.ok.inj (tiled.symm.trans same)
    rw [Reservation.bytes_ids extracts.ids] at vast
    exact ⟨task, member, vast⟩
  · rintro ⟨task, member, vast⟩
    obtain ⟨desc, recorded, layer, tiled, extracts⟩ := exists_item_of_forall₂ plan.layers member
    rw [← Reservation.bytes_ids extracts.ids] at vast
    exact ⟨_, ⟨desc, recorded, layer, tiled, rfl⟩, vast⟩

/-- Without attributes a slice asks for no other room. -/
theorem reservations_asking_nil_subset (query : SliceQuery) :
    { query with base := query.base.asking [] }.reservations ⊆ query.reservations := by
  intro reservation member
  unfold reservations at member
  split at member
  · rename_i tiling axis tiled along
    split at member
    · rename_i inside
      have listed : query.reservations = .ids tiling axis ::
          query.base.manifest.layerReservations axis
            (query.base.manifest.recorded query.base.attributes) :=
        reservations_of_lt tiled along inside
      have first : reservation ∈ [Reservation.ids tiling axis] := member
      rw [listed]
      exact List.mem_cons.mpr (Or.inl (List.mem_singleton.mp first))
    · cases member
  · cases member

end SliceQuery

/-! ## Curtains -/

namespace CurtainQuery

variable {query : CurtainQuery}

/-- The data task of a curtain and the step for its attributes. -/
def front (query : CurtainQuery) :
    Except Fault (CurtainTask × (AttributeDesc → Except Fault CurtainTask)) := do
  let tiling ← query.base.manifest.tiling
  let base ← TaskBase.ofData query.base .curtain
  let ids ← query.singles tiling
  return ({ base, ids }, query.attributeTask)

theorem tasks_eq_assemble (query : CurtainQuery) :
    query.tasks = assemble query.front (query.base.manifest.recorded query.base.attributes) := by
  simp only [tasks, assemble, front, bind_assoc, pure_bind]

theorem attributeTask_serves {desc : AttributeDesc} {task : CurtainTask}
    (built : query.attributeTask desc = .ok task) :
    task.base.ServesAttribute query.base .curtain desc := by
  obtain ⟨base, shared, built⟩ := bind_eq_ok.mp built
  obtain ⟨layer, _, built⟩ := bind_eq_ok.mp built
  obtain ⟨ids, _, built⟩ := bind_eq_ok.mp built
  rw [← pure_eq_ok.mp built]
  exact TaskBase.ofAttribute_serves shared

theorem front_serves {data : CurtainTask} {step : AttributeDesc → Except Fault CurtainTask}
    (found : query.front = .ok (data, step)) : ServesVolumes query.base .curtain data step := by
  obtain ⟨tiling, tiled, found⟩ := bind_eq_ok.mp found
  obtain ⟨base, shared, found⟩ := bind_eq_ok.mp found
  obtain ⟨ids, planned, found⟩ := bind_eq_ok.mp found
  cases pure_eq_ok.mp found
  constructor
  · exact TaskBase.ofData_serves shared
  · intro desc layer layered
    obtain ⟨task, made⟩ := exists_attributeTask tiled planned layered
    exact ⟨task, made, attributeTask_serves made⟩

theorem plansVolumes (validated : query.base.manifest.validate = .ok ()) :
    PlansVolumes query.base .curtain fun base => { query with base }.tasks := by
  refine plansVolumes_of_front query.front validated ?_ fun _ _ => front_serves
  intro names descs
  exact tasks_eq_assemble _

end CurtainQuery

/-! ## Plans in room -/

/-- A query that asks for no other room ends when the first does, and has a plan if the
first has one. -/
theorem exists_tasksInRoom_of_subset {α τ : Type} [Schedulable α τ] [Reserving α]
    {query other : α} (fewer : Reserving.reservations other ⊆ Reserving.reservations query)
    (planned_iff : (∃ tasks, Schedulable.tasks query = .ok tasks) ↔
      ∃ tasks, Schedulable.tasks other = .ok tasks)
    {outcome : Except Fault (List τ)} (ends : tasksInRoom query = .ok outcome) :
    ∃ bare, tasksInRoom other = .ok bare ∧
      ((∃ tasks, outcome = .ok tasks) ↔ ∃ tasks, bare = .ok tasks) := by
  cases stopped : tasksInRoom other with
  | error stop =>
      obtain ⟨reservation, member, excess⟩ := tasksInRoom_stops.mp ⟨stop, stopped⟩
      obtain ⟨stop, stopped⟩ := tasksInRoom_stops.mpr ⟨reservation, fewer member, excess⟩
      rw [ends] at stopped
      cases stopped
  | ok bare =>
      rw [tasksInRoom_eq_ok ends, tasksInRoom_eq_ok stopped] at planned_iff
      exact ⟨bare, rfl, planned_iff⟩

/-! ## Main result -/

/-- Attributes do not decide whether a query is planned, and every task is made from the
query and its own volume alone.  The attributes of a slice need room for their ids, and
those of a curtain need none; where there is room, attributes decide nothing. -/
theorem attributes_planned_apart :
    (∀ query : SliceQuery, query.base.manifest.validate = .ok () →
      (PlansVolumes query.base .slice fun base => { query with base }.tasks) ∧
      (∀ tasks, query.tasks = .ok tasks → ((∃ stop, tasksInRoom query = .error stop) ↔
        ∃ task ∈ tasks, Reservation.limit < task.ids.length * 24)) ∧
      ∀ outcome, tasksInRoom query = .ok outcome →
        ∃ bare, tasksInRoom { query with base := query.base.asking [] } = .ok bare ∧
          ((∃ tasks, outcome = .ok tasks) ↔ ∃ tasks, bare = .ok tasks)) ∧
    (∀ query : CurtainQuery, query.base.manifest.validate = .ok () →
      (PlansVolumes query.base .curtain fun base => { query with base }.tasks) ∧
      ((∃ stop, tasksInRoom query = .error stop) ↔
        ∃ stop, tasksInRoom { query with base := query.base.asking [] } = .error stop) ∧
      ∀ outcome, tasksInRoom query = .ok outcome →
        ∃ bare, tasksInRoom { query with base := query.base.asking [] } = .ok bare ∧
          ((∃ tasks, outcome = .ok tasks) ↔ ∃ tasks, bare = .ok tasks)) := by
  constructor
  · intro query validated
    have plans := SliceQuery.plansVolumes validated
    refine ⟨plans, fun _ planned => SliceQuery.tasksInRoom_stops_of_planned planned, ?_⟩
    intro outcome ends
    exact exists_tasksInRoom_of_subset query.reservations_asking_nil_subset plans.planned_iff ends
  · intro query validated
    have plans := CurtainQuery.plansVolumes validated
    have same : Reserving.reservations { query with base := query.base.asking [] } =
        Reserving.reservations query := rfl
    refine ⟨plans, ?_, ?_⟩
    · rw [tasksInRoom_stops, tasksInRoom_stops, same]
    · intro outcome ends
      exact exists_tasksInRoom_of_subset (same ▸ List.Subset.refl _) plans.planned_iff ends

/-- An attribute that is asked for twice has two equal tasks, one that the survey lacks has
none, and the data task is what it is without them. -/
theorem smallSurvey_attributes_planned_apart :
    smallSurvey.validate = .ok () ∧
    (∃ data layer, { smallSlice with base := smallBase.asking [] }.tasks = .ok [data] ∧
      { smallSlice with base := smallBase.asking ["cdpx", "lost", "cdpx"] }.tasks =
        .ok [data, layer, layer]) ∧
    ∃ data layer, { smallCurtain with base := smallBase.asking [] }.tasks = .ok [data] ∧
      { smallCurtain with base := smallBase.asking ["cdpx", "lost", "cdpx"] }.tasks =
        .ok [data, layer, layer] := by
  have validated : smallSurvey.validate = .ok () := by decide
  obtain ⟨slices, curtains⟩ := attributes_planned_apart
  refine ⟨validated, ?_, ?_⟩
  · obtain ⟨plans, _⟩ := slices smallSlice validated
    obtain ⟨tasks, planned⟩ : ∃ tasks, smallSlice.tasks = .ok tasks := ⟨_, rfl⟩
    obtain ⟨data, layer, _, _, _, others⟩ := plans.volumes tasks planned
    exact ⟨data, _, others [] smallSurvey.attributes validated,
      others ["cdpx", "lost", "cdpx"] smallSurvey.attributes validated⟩
  · obtain ⟨plans, _⟩ :=
      curtains { smallCurtain with base := smallBase.asking ["cdpx", "cdpy"] } validated
    obtain ⟨data, layer, _, _, _, others⟩ := plans.volumes smallTasks smallCurtain_tasks
    exact ⟨data, _, others [] smallSurvey.attributes validated,
      others ["cdpx", "lost", "cdpx"] smallSurvey.attributes validated⟩

end SurveyCube
