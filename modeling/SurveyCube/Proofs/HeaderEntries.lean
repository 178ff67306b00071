import SurveyCube.Proofs.Schedule
import SurveyCube.Proofs.Shape

/-!
# Shapes are looked up by name

A header lists the names of its outputs, the trace values first, and beside them
one entry for each name: the rank of the output's shape and then the shape.

* `ProcessHeader.Lists` ties the flat list of entries to the list of shapes.
  A name is looked up as the shape at its first position.
* Normalized attribute names are distinct, so the names of a header are distinct
  unless the query asks for an attribute with the name of the trace values.
* If it does, both outputs are called by one name, and the lookup finds the
  shape of the trace values for both.
-/

namespace SurveyCube

/-! ## Entries by position and by name -/

namespace ProcessHeader

theorem entryAt?_flatMap_entry (shapes : List (List Nat)) (position : Nat) :
    entryAt? position (shapes.flatMap entry) = shapes[position]? := by
  induction shapes generalizing position with
  | nil =>
      rw [List.flatMap_nil, List.getElem?_nil, entryAt?]
  | cons shape rest ih =>
      rw [List.flatMap_cons, entry, List.cons_append]
      cases position with
      | zero => simp [entryAt?]
      | succ position => simp [entryAt?, ih]

/-- The entries of the header are those of the shapes, one for every name. -/
structure Lists (header : ProcessHeader) (shapes : List (List Nat)) : Prop where
  entries : header.shapes = shapes.flatMap entry
  length : shapes.length = header.attributes.length

variable {header : ProcessHeader} {shapes : List (List Nat)}

theorem Lists.shapeOf?_eq (lists : header.Lists shapes) (name : String) :
    header.shapeOf? name =
      (header.attributes.idxOf? name).bind fun position => shapes[position]? := by
  unfold shapeOf?
  rw [lists.entries]
  simp only [entryAt?_flatMap_entry]

section OfQuery

variable (base : QueryBase) (function : Function) (ntasks : Nat) (index : List Int)
  (dataShape attributeShape : List Nat)

theorem lists_ofQuery :
    (ofQuery base function ntasks index dataShape attributeShape).Lists
      (dataShape :: base.attributes.map fun _ => attributeShape) where
  entries := by
    rw [List.flatMap_cons, List.flatMap_map]
    rfl
  length := by
    rw [List.length_cons, List.length_map]
    rfl

/-- The name of the trace values finds their shape, and any other listed name
finds the shape of an attribute. -/
theorem shapeOf?_ofQuery (name : String) :
    (ofQuery base function ntasks index dataShape attributeShape).shapeOf? name =
      if name = TaskBase.dataAttribute then some dataShape
      else if name ∈ base.attributes then some attributeShape
      else none := by
  have names : (ofQuery base function ntasks index dataShape attributeShape).attributes =
      TaskBase.dataAttribute :: base.attributes := rfl
  rw [(lists_ofQuery base function ntasks index dataShape attributeShape).shapeOf?_eq, names,
    List.idxOf?_cons]
  by_cases data : name = TaskBase.dataAttribute
  · rw [if_pos data, data, beq_self_eq_true]
    rfl
  · rw [if_neg data, beq_eq_false_iff_ne.mpr (Ne.symm data)]
    cases found : base.attributes.idxOf? name with
    | none =>
        rw [if_neg (List.idxOf?_eq_none_iff.mp found)]
        rfl
    | some position =>
        obtain ⟨inside, same, _⟩ := List.idxOf?_eq_some_iff.mp found
        have member : name ∈ base.attributes := by
          rw [← same]
          exact List.getElem_mem inside
        rw [if_pos member]
        simp [inside]

end OfQuery

end ProcessHeader

/-! ## Headers of queries -/

namespace SliceQuery

variable {query : SliceQuery} {ntasks : Nat} {header : ProcessHeader}

theorem length_outputLines
    {cube : Shape} {queried axis : Axis} {line : Int} {lines : List Int}
    (measured : query.base.manifest.cubeShape = .ok cube)
    (found : query.outputLines queried line axis = .ok lines) :
    lines.length = (cube.set queried 1).get axis := by
  rw [Triple.set, Triple.get_ofFn]
  unfold outputLines at found
  split at found
  · rename_i same
    cases found
    rw [if_pos same]
    rfl
  · rename_i other
    rw [if_neg other]
    exact Manifest.length_of_dimension measured found

/-- The output of a slice has the shape of the cube with a single index along
the axis of the query, and attributes have a single layer as well. -/
theorem header_eq {cube : Shape} (headed : query.header ntasks = .ok header)
    (measured : query.base.manifest.cubeShape = .ok cube) :
    ∃ index, header = .ofQuery query.base .slice ntasks index (cube.toList.set query.dim 1)
      ((cube.withZ 1).toList.set query.dim 1) := by
  obtain ⟨axis, line, lines, along, _, each, rfl⟩ := header_eq_ok.mp headed
  have sizes : lines.map List.length = (cube.set axis 1).toList := by
    have found := (mapM_eq_ok.mp each).imp fun _ _ found => (length_outputLines measured found).symm
    exact (map_eq_map_iff_forall₂.mpr found).symm
  -- The layer of attributes stands in for the depth, also if the slice is a layer itself.
  have layer : (lines.map List.length).dropLast ++ [1] = ((cube.withZ 1).set axis 1).toList := by
    rw [sizes]
    cases axis <;> rfl
  rw [layer, sizes, Triple.toList_set, Triple.toList_set, ← along]
  exact ⟨_, rfl⟩

end SliceQuery

namespace CurtainQuery

variable {query : CurtainQuery} {ntasks : Nat} {header : ProcessHeader}

/-- The output of a curtain has a row for every trace of the polyline. -/
theorem header_eq {cube : Shape} (headed : query.header ntasks = .ok header)
    (measured : query.base.manifest.cubeShape = .ok cube) :
    ∃ index, header = .ofQuery query.base .curtain ntasks index
      [query.dim0s.length, cube.z] [query.dim0s.length] := by
  obtain ⟨_, _, _, depths, _, _, layers, rfl⟩ := header_eq_ok.mp headed
  rw [Manifest.length_of_dimension measured layers]
  exact ⟨_, rfl⟩

end CurtainQuery

/-! ## Responses -/

section Responds

variable {α τ ι : Type} [Schedulable α τ] [Divisible τ ι] [Serial τ]

/-- A response is a header and the messages of units of work. -/
structure Responds (set : TaskSet) (header : ProcessHeader) (units : List τ) : Prop where
  announced : header.bundles = units.length
  packed : ∃ envelope, Envelope.pack header = .ok envelope ∧ set.envelope = some envelope
  unpacked : packable header = true →
    Envelope.unpack set.stream = .ok (header, set.count, set.blocks.flatten)
  decodes : Decodes set units

theorem Scheduled.responds
    [Words α] [Words τ] [LawfulSchedulable α] [LawfulSerial τ] {query : α} {taskSize : Nat}
    {set : TaskSet} {tasks : List τ} {header : ProcessHeader} {envelope : Bytes}
    (scheduled : Scheduled query taskSize set tasks header envelope)
    (words : fitWords query = true) (shallow : LawfulSerial.levels τ ≤ Msgpack.maxDepth) :
    Responds set header (tasks.flatMap (units taskSize)) where
  announced := scheduled.bundles_eq.trans scheduled.count_eq
  packed := ⟨envelope, scheduled.packed, scheduled.holds.envelope⟩
  unpacked := scheduled.unpack_stream words
  decodes := scheduled.decodes words shallow

end Responds

/-! ## Names of outputs -/

theorem dataAttribute_mem_normalizedAttributes {names : List String} :
    TaskBase.dataAttribute ∈ normalizedAttributes names ↔ TaskBase.dataAttribute ∈ names := by
  rw [mem_normalizedAttributes]
  constructor
  · rintro ⟨short, requested, expanded⟩
    unfold expandAttribute at expanded
    split at expanded
    · exact absurd expanded (by decide)
    · rwa [List.mem_singleton.mp expanded]
  · intro requested
    exact ⟨_, requested, by decide⟩

theorem ne_dataAttribute_of_mem {name : String} {names : List String}
    (notAsked : TaskBase.dataAttribute ∉ names) (asked : name ∈ normalizedAttributes names) :
    name ≠ TaskBase.dataAttribute := by
  rintro rfl
  exact notAsked (dataAttribute_mem_normalizedAttributes.mp asked)

/-- The outputs of a response are listed by name: the trace values, and then the
normalized attributes. -/
structure ProcessHeader.NamesOutputs (header : ProcessHeader) (requested : List String) :
    Prop where
  attributes : header.attributes = TaskBase.dataAttribute :: normalizedAttributes requested
  /-- The only name that can come twice is the reserved one. -/
  nodup_iff : header.attributes.Nodup ↔ TaskBase.dataAttribute ∉ requested
  /-- A name finds the shape at its position, except that the reserved name finds
  the shape of the trace values wherever it stands. -/
  lookup : ∃ shapes, header.Lists shapes ∧ ∀ position name,
    header.attributes[position]? = some name →
      header.shapeOf? name = shapes[if name = TaskBase.dataAttribute then 0 else position]?

theorem ProcessHeader.namesOutputs_ofQuery
    (base : QueryBase) (function : Function) (ntasks : Nat) (index : List Int)
    (dataShape attributeShape : List Nat) :
    (ofQuery base.normalized function ntasks index dataShape attributeShape).NamesOutputs
      base.attributes where
  attributes := rfl
  nodup_iff := by
    change (TaskBase.dataAttribute :: normalizedAttributes base.attributes).Nodup ↔ _
    rw [List.nodup_cons, dataAttribute_mem_normalizedAttributes,
      and_iff_left (normalizedAttributes_nodup base.attributes)]
  lookup := by
    refine ⟨_, lists_ofQuery base.normalized function ntasks index dataShape attributeShape, ?_⟩
    intro position name listed
    rw [shapeOf?_ofQuery]
    by_cases data : name = TaskBase.dataAttribute
    · rw [if_pos data, if_pos data]
      rfl
    · rw [if_neg data, if_neg data]
      cases position with
      | zero =>
          -- The reserved name stands first.
          exact absurd (Option.some.inj listed).symm data
      | succ position =>
          have found : base.normalized.attributes[position]? = some name := listed
          rw [if_pos (List.mem_of_getElem? found), List.getElem?_cons_succ, List.getElem?_map,
            found]
          rfl

/-- The header of a response names its outputs, and all of them are told apart by
their names unless the query asks for an attribute of the reserved name. -/
theorem responses_name_outputs (taskSize : Nat) :
    (∀ (query : SliceQuery) (set : TaskSet), fitWords query = true →
      scheduleQuery query taskSize = .ok set →
        ∃ (header : ProcessHeader) (units : List SliceTask),
          Responds set header units ∧ header.NamesOutputs query.base.attributes) ∧
    (∀ (query : CurtainQuery) (set : TaskSet), fitWords query = true →
      scheduleQuery query taskSize = .ok set →
        ∃ (header : ProcessHeader) (units : List CurtainTask),
          Responds set header units ∧ header.NamesOutputs query.base.attributes) := by
  constructor
  · intro query set words accepted
    obtain ⟨tasks, header, envelope, scheduled⟩ := scheduleQuery_eq_ok accepted
    obtain ⟨axis, tiling, data, rest, _, _, rfl, plan⟩ :=
      SliceQuery.tasks_eq_ok scheduled.planned
    have measured := (Manifest.tiling_eq_ok.mp plan.tiled).1
    obtain ⟨index, rfl⟩ := SliceQuery.header_eq scheduled.headed measured
    exact ⟨_, _, scheduled.responds words (by decide),
      ProcessHeader.namesOutputs_ofQuery query.base _ _ _ _ _⟩
  · intro query set words accepted
    obtain ⟨tasks, header, envelope, scheduled⟩ := scheduleQuery_eq_ok accepted
    obtain ⟨tiling, data, rest, rfl, plan⟩ := CurtainQuery.tasks_eq_ok scheduled.planned
    have measured := (Manifest.tiling_eq_ok.mp plan.tiled).1
    obtain ⟨index, rfl⟩ := CurtainQuery.header_eq scheduled.headed measured
    exact ⟨_, _, scheduled.responds words (by decide),
      ProcessHeader.namesOutputs_ofQuery query.base _ _ _ _ _⟩

/-- The outputs of the small slice and the small curtain are told apart by their
names. -/
theorem small_responses_name_outputs :
    (∃ (set : TaskSet) (header : ProcessHeader) (units : List SliceTask),
      scheduleQuery smallSlice 3 = .ok set ∧ Responds set header units ∧
        header.attributes = ["data", "cdpx", "cdpy"] ∧ header.attributes.Nodup) ∧
    (∃ (set : TaskSet) (header : ProcessHeader) (units : List CurtainTask),
      scheduleQuery smallCurtain 3 = .ok set ∧ Responds set header units ∧
        header.attributes = ["data", "cdpx", "cdpy"] ∧ header.attributes.Nodup) := by
  constructor
  · obtain ⟨set, accepted, _⟩ := map_eq_ok.mp smallSlice_count
    obtain ⟨header, units, responds, names⟩ :=
      (responses_name_outputs 3).1 smallSlice set (by decide) accepted
    have listed := names.attributes
    rw [smallSlice, smallBase_attributes] at listed
    exact ⟨set, header, units, accepted, responds, listed, names.nodup_iff.mpr (by decide)⟩
  · obtain ⟨set, accepted, _⟩ := map_eq_ok.mp smallCurtain_count
    obtain ⟨header, units, responds, names⟩ :=
      (responses_name_outputs 3).2 smallCurtain set (by decide) accepted
    have listed := names.attributes
    rw [smallCurtain, smallBase_attributes] at listed
    exact ⟨set, header, units, accepted, responds, listed, names.nodup_iff.mpr (by decide)⟩

/-- The first inline plane of the small survey, with a request for an attribute
of the reserved name. -/
def reservedSlice : SliceQuery where
  base := { smallBase with attributes := [TaskBase.dataAttribute] }
  dim := 0
  idx := 0

theorem reservedSlice_normalized : Schedulable.normalized reservedSlice = reservedSlice := by
  have kept : normalizedAttributes [TaskBase.dataAttribute] = [TaskBase.dataAttribute] := by
    have expanded : [TaskBase.dataAttribute].flatMap expandAttribute =
        [TaskBase.dataAttribute] := by
      decide
    rw [normalizedAttributes, expanded, List.mergeSort_singleton]
    rfl
  exact congrArg
    (fun attributes => { reservedSlice with base := { smallBase with attributes } }) kept

theorem reservedSlice_count : (scheduleQuery reservedSlice 3).map TaskSet.count = .ok 1 := by
  rw [scheduleQuery]
  simp only [reservedSlice_normalized]
  decide +kernel

/-- Both outputs are called by the reserved name, and the shape of the attribute
is not found. -/
theorem reservedSlice_shadows_attribute :
    ∃ (set : TaskSet) (header : ProcessHeader) (units : List SliceTask),
      scheduleQuery reservedSlice 3 = .ok set ∧ Responds set header units ∧
        header.attributes = ["data", "data"] ∧ ¬ header.attributes.Nodup ∧
        header.Lists [[1, 2, 3], [1, 2, 1]] ∧ header.shapeOf? "data" = some [1, 2, 3] := by
  obtain ⟨set, accepted, _⟩ := map_eq_ok.mp reservedSlice_count
  obtain ⟨tasks, header, envelope, scheduled⟩ := scheduleQuery_eq_ok accepted
  have responds := scheduled.responds (by decide) (by decide)
  have headed := scheduled.headed
  rw [reservedSlice_normalized] at headed
  cases headed
  have twice : ¬ ["data", "data"].Nodup := by decide
  exact ⟨set, _, _, accepted, responds, rfl, twice, ⟨rfl, rfl⟩, rfl⟩

end SurveyCube
