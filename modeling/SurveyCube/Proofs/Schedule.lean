import Mathlib.Data.List.Permutation
import SurveyCube.Schedule
import SurveyCube.Proofs.CurtainPlan
import SurveyCube.Proofs.Header
import SurveyCube.Proofs.Message
import SurveyCube.Proofs.SlicePlan

/-!
# Scheduled queries

`Scheduled` collects what an accepted query has led to: a plan, a header that
announces as many parts as there are blocks, and a task set that holds the
envelope of the header and the messages of the units of work.

`LawfulSchedulable` collects what is the same for the shapes of query: headers
announce the number of parts that they are given, and words stay words.
-/

namespace SurveyCube

/-- Query shapes whose plans and headers keep to the number of parts and to
machine words. -/
class LawfulSchedulable (α : Type) {τ : outParam Type} {ι : outParam Type} [Schedulable α τ]
    [Divisible τ ι] [Words α] [Words τ] : Prop where
  fitWords_normalized (query : α) : fitWords (Schedulable.normalized query) = fitWords query
  bundles_header {query : α} {ntasks : Nat} {header : ProcessHeader} :
    Schedulable.header query ntasks = .ok header → header.bundles = ntasks
  fitWords_header {query : α} {ntasks : Nat} {header : ProcessHeader} :
    Schedulable.header query ntasks = .ok header → fitWords query = true → ntasks < wordLimit →
      fitWords header = true
  fitWords_tasks {query : α} {tasks : List τ} :
    Schedulable.tasks query = .ok tasks → fitWords query = true →
      ∀ task ∈ tasks, fitWords task = true
  fitWords_withIds {task : τ} {ids : List ι} :
    fitWords task = true → (∀ id ∈ ids, id ∈ Divisible.ids task) →
      fitWords (Divisible.withIds task ids) = true

instance : LawfulSchedulable SliceQuery where
  fitWords_normalized _ := rfl
  bundles_header := SliceQuery.bundles_header
  fitWords_header := SliceQuery.fitWords_header
  fitWords_tasks := SliceQuery.fitWords_tasks
  fitWords_withIds words included := by
    obtain ⟨base, dim, idx, ids⟩ := SliceTask.fitWords_iff.mp words
    rw [fitWords_list_iff] at ids
    refine SliceTask.fitWords_iff.mpr ⟨base, dim, idx, ?_⟩
    exact fitWords_list_iff.mpr fun id member => ids id (included id member)

instance : LawfulSchedulable CurtainQuery where
  fitWords_normalized _ := rfl
  bundles_header := CurtainQuery.bundles_header
  fitWords_header := CurtainQuery.fitWords_header
  fitWords_tasks := CurtainQuery.fitWords_tasks
  fitWords_withIds words included := by
    obtain ⟨base, ids⟩ := CurtainTask.fitWords_iff.mp words
    rw [fitWords_list_iff] at ids
    refine CurtainTask.fitWords_iff.mpr ⟨base, ?_⟩
    exact fitWords_list_iff.mpr fun id member => ids id (included id member)

section Scheduled

variable {α τ ι : Type} [Schedulable α τ] [Divisible τ ι] [Serial τ]

/-- What an accepted query has led to. -/
structure Scheduled (query : α) (taskSize : Nat) (set : TaskSet) (tasks : List τ)
    (header : ProcessHeader) (envelope : Bytes) : Prop where
  validated : (Schedulable.base query).manifest.validate = .ok ()
  planned : Schedulable.tasks (Schedulable.normalized query) = .ok tasks
  headed : Schedulable.header (Schedulable.normalized query) set.count = .ok header
  packed : Envelope.pack header = .ok envelope
  holds : set.Holds (some envelope) ((tasks.flatMap (units taskSize)).map writeMessage)

theorem scheduleQuery_eq_ok
    {query : α} {taskSize : Nat} {set : TaskSet}
    (accepted : scheduleQuery query taskSize = .ok set) :
    ∃ tasks header envelope, Scheduled query taskSize set tasks header envelope := by
  obtain ⟨_, validated, accepted⟩ := bind_eq_ok.mp accepted
  obtain ⟨tasks, planned, accepted⟩ := bind_eq_ok.mp accepted
  obtain ⟨blocks, divided, accepted⟩ := bind_eq_ok.mp accepted
  obtain ⟨header, headed, accepted⟩ := bind_eq_ok.mp accepted
  obtain ⟨envelope, packed, accepted⟩ := bind_eq_ok.mp accepted
  have same := pure_eq_ok.mp accepted
  subst same
  have holds := (partition_holds divided).2.setEnvelope envelope
  exact ⟨tasks, header, envelope, validated, planned, headed, packed, holds⟩

namespace Scheduled

variable {query : α} {taskSize : Nat} {set : TaskSet} {tasks : List τ} {header : ProcessHeader}
  {envelope : Bytes}

theorem count_eq (scheduled : Scheduled query taskSize set tasks header envelope) :
    set.count = (tasks.flatMap (units taskSize)).length := by
  rw [scheduled.holds.count_eq, List.length_map]

variable [Words α] [Words τ] [LawfulSchedulable α]

theorem bundles_eq (scheduled : Scheduled query taskSize set tasks header envelope) :
    header.bundles = set.count :=
  LawfulSchedulable.bundles_header scheduled.headed

theorem fitWords_header (scheduled : Scheduled query taskSize set tasks header envelope)
    (words : fitWords query = true) : fitWords header = true := by
  have few : set.count < wordLimit := by
    have listed := (Envelope.pack_eq_ok.mp scheduled.packed).1
    rw [scheduled.bundles_eq] at listed
    exact Nat.lt_of_le_of_lt listed (by decide)
  rw [← LawfulSchedulable.fitWords_normalized query] at words
  exact LawfulSchedulable.fitWords_header scheduled.headed words few

/-- The stream of the response gives back the header and the number of parts. -/
theorem unpack_stream (scheduled : Scheduled query taskSize set tasks header envelope)
    (words : fitWords query = true) (short : packable header = true) :
    Envelope.unpack set.stream = .ok (header, set.count, set.blocks.flatten) := by
  have stream := scheduled.holds.stream_eq
  rw [Option.getD_some, ← scheduled.holds.blocks_eq] at stream
  rw [stream, ← scheduled.bundles_eq]
  exact Envelope.unpack_pack scheduled.packed (scheduled.fitWords_header words) short _

theorem fitWords_units (scheduled : Scheduled query taskSize set tasks header envelope)
    (words : fitWords query = true) :
    ∀ unit ∈ tasks.flatMap (units taskSize), fitWords unit = true := by
  rw [← LawfulSchedulable.fitWords_normalized query] at words
  intro unit member
  obtain ⟨task, inside, divided⟩ := List.mem_flatMap.mp member
  obtain ⟨ids, chunk, rfl⟩ := mem_units.mp divided
  apply LawfulSchedulable.fitWords_withIds (α := α)
  · exact LawfulSchedulable.fitWords_tasks scheduled.planned words task inside
  · intro id here
    exact (sublist_of_mem_chunks chunk).subset here

end Scheduled

/-- The blocks of a task set are the messages of units of work, and decode to
them. -/
structure Decodes (set : TaskSet) (units : List τ) : Prop where
  blocks : set.blocks = units.map writeMessage
  decoded : ∀ unit ∈ units, packable unit = true →
    readMessage τ (writeMessage unit) = .ok (unit, [])

theorem Scheduled.decodes
    [Words α] [Words τ] [LawfulSchedulable α] [LawfulSerial τ] {query : α} {taskSize : Nat}
    {set : TaskSet} {tasks : List τ} {header : ProcessHeader} {envelope : Bytes}
    (scheduled : Scheduled query taskSize set tasks header envelope)
    (words : fitWords query = true) (shallow : LawfulSerial.levels τ ≤ Msgpack.maxDepth) :
    Decodes set (tasks.flatMap (units taskSize)) where
  blocks := scheduled.holds.blocks_eq
  decoded := by
    intro unit member short
    have read := readMessage_writeMessage (scheduled.fitWords_units words unit member) short
      shallow []
    rwa [List.append_nil] at read

end Scheduled

/-! ## A small survey

The last fragments along the first and the last axis are partial, and the
attribute volume is divided in another way than the data. -/

/-- Three by two traces of three samples. -/
def smallSurvey : Manifest where
  formatVersion := 1
  data := [{ storagePrefix := "src", fileExtension := "f32", shapes := [⟨2, 2, 2⟩] }]
  attributes := [{
    name := "cdpx"
    storagePrefix := "cdpx"
    fileExtension := "f32"
    layout := ""
    labels := []
    shapes := [⟨2, 1, 2⟩] }]
  lineNumbers := [[1, 2, 3], [10, 11], [0, 4, 8]]
  lineLabels := ["inline", "crossline", "depth"]

/-- A request for the only attribute of the survey and for one it lacks. -/
def smallBase : QueryBase where
  pid := "p"
  token := ""
  guid := "g"
  storageEndpoint := ""
  manifest := smallSurvey
  attributes := ["cdp"]

/-- The second plane in depth. -/
def smallSlice : SliceQuery where
  base := smallBase
  dim := 2
  idx := 1

/-- A polyline that leaves a column and comes back to it. -/
def smallCurtain : CurtainQuery where
  base := smallBase
  dim0s := [2, 0, 2]
  dim1s := [1, 0, 0]

/-- The shared part of the tasks of the small curtain. -/
def smallTask (name : String) (volume : String) (shape cubeShape : Shape) : TaskBase where
  pid := "p"
  token := ""
  guid := "g"
  storageEndpoint := ""
  storagePrefix := volume
  fileExtension := "f32"
  shape
  cubeShape
  function := .curtain
  attributeName := name

/-- The plan of the small curtain. -/
def smallTasks : List CurtainTask := [
  { base := smallTask "data" "src" ⟨2, 2, 2⟩ ⟨3, 2, 3⟩
    ids := [
      { id := ⟨0, 0, 0⟩, offset := 1, coordinates := [(0, 0)] },
      { id := ⟨0, 0, 1⟩, offset := 1, coordinates := [(0, 0)] },
      { id := ⟨1, 0, 0⟩, offset := 0, coordinates := [(0, 1), (0, 0)] },
      { id := ⟨1, 0, 1⟩, offset := 0, coordinates := [(0, 1), (0, 0)] }] },
  { base := smallTask "cdpx" "cdpx" ⟨2, 1, 2⟩ ⟨3, 2, 1⟩
    ids := [
      { id := ⟨0, 0, 0⟩, offset := 1, coordinates := [(0, 0)] },
      { id := ⟨1, 0, 0⟩, offset := 2, coordinates := [(0, 0)] },
      { id := ⟨1, 1, 0⟩, offset := 0, coordinates := [(0, 0)] }] }]

theorem smallBase_attributes : normalizedAttributes smallBase.attributes = ["cdpx", "cdpy"] := by
  have expanded : smallBase.attributes.flatMap expandAttribute = ["cdpx", "cdpy"] := by
    decide
  have sorted : ["cdpx", "cdpy"].Pairwise fun a b => Text.notAfter a b = true := by
    decide +kernel
  rw [normalizedAttributes, expanded, List.mergeSort_of_pairwise sorted]
  decide

theorem smallBase_requested : "cdpx" ∈ normalizedAttributes smallBase.attributes := by
  rw [smallBase_attributes]
  exact List.mem_cons_self

theorem smallBase_normalized :
    smallBase.normalized = { smallBase with attributes := ["cdpx", "cdpy"] } :=
  congrArg (fun attributes => { smallBase with attributes }) smallBase_attributes

theorem smallSlice_normalized :
    Schedulable.normalized smallSlice =
      { smallSlice with base := { smallBase with attributes := ["cdpx", "cdpy"] } } :=
  congrArg (fun base => { smallSlice with base }) smallBase_normalized

theorem smallCurtain_normalized :
    Schedulable.normalized smallCurtain =
      { smallCurtain with base := { smallBase with attributes := ["cdpx", "cdpy"] } } :=
  congrArg (fun base => { smallCurtain with base }) smallBase_normalized

theorem smallCurtain_tasks :
    Schedulable.tasks
        { smallCurtain with base := { smallBase with attributes := ["cdpx", "cdpy"] } } =
      .ok smallTasks := by
  cbv

theorem smallSlice_count : (scheduleQuery smallSlice 3).map TaskSet.count = .ok 3 := by
  rw [scheduleQuery]
  simp only [smallSlice_normalized]
  decide +kernel

theorem smallCurtain_count : (scheduleQuery smallCurtain 3).map TaskSet.count = .ok 3 := by
  rw [scheduleQuery]
  simp only [smallCurtain_normalized, smallCurtain_tasks]
  decide +kernel

end SurveyCube
