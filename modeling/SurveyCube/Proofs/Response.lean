import SurveyCube.Proofs.Schedule

/-!
# Responses are read back

The stream of an accepted query can be read in two ways: as an envelope and
then part by part, or as one message.  Both give the header and the units of
work that the query was planned to.
-/

namespace SurveyCube

section ReadsBack

variable {α τ ι : Type} [Schedulable α τ] [Divisible τ ι] [Serial τ]

/-- The lengths of all texts and lists in the messages of a response with so many
parts fit their tags. -/
def shortMessages (query : α) (taskSize ntasks : Nat) : Bool :=
  (Schedulable.header (Schedulable.normalized query) ntasks).toOption.all packable &&
    (Schedulable.tasks (Schedulable.normalized query)).toOption.all fun tasks =>
      (tasks.flatMap (units taskSize)).all packable

/-- The response to a query gives back its header and its units of work. -/
structure ReadsBack (query : α) (taskSize : Nat) (set : TaskSet) (header : ProcessHeader)
    (tasks : List τ) : Prop where
  headed : Schedulable.header (Schedulable.normalized query) set.count = .ok header
  planned : Schedulable.tasks (Schedulable.normalized query) = .ok tasks
  announced : header.bundles = set.count
  counted : (tasks.flatMap (units taskSize)).length = set.count
  /-- The envelope gives the header and the number of parts. -/
  unpacked : Envelope.unpack set.stream = .ok (header, set.count, set.blocks.flatten)
  /-- Reading that many parts gives the units of work and leaves nothing. -/
  parts : Envelope.readParts τ set.count set.blocks.flatten =
    (tasks.flatMap (units taskSize), .ok [])
  /-- Reading a part takes exactly one block. -/
  step : ∀ i unit, (tasks.flatMap (units taskSize))[i]? = some unit →
    readMessage τ (set.blocks.drop i).flatten = .ok (unit, (set.blocks.drop (i + 1)).flatten)
  /-- The stream is one message of the header and the list of parts. -/
  whole : Msgpack.read? set.stream =
    some (.list [toDatum header, .list ((tasks.flatMap (units taskSize)).map toDatum)], [])

variable [Words α] [Words τ] [LawfulSchedulable α] [LawfulSerial τ]

theorem Scheduled.readsBack
    {query : α} {taskSize : Nat} {set : TaskSet} {tasks : List τ} {header : ProcessHeader}
    {envelope : Bytes} (scheduled : Scheduled query taskSize set tasks header envelope)
    (words : fitWords query = true) (short : shortMessages query taskSize set.count = true)
    (shallow : LawfulSerial.levels τ + 2 ≤ Msgpack.maxDepth) :
    ReadsBack query taskSize set header tasks := by
  have headerWords := scheduled.fitWords_header words
  have unitWords := scheduled.fitWords_units words
  rw [shortMessages, scheduled.headed, scheduled.planned, Bool.and_eq_true] at short
  obtain ⟨headerShort, unitShort⟩ := short
  replace unitShort := List.all_eq_true.mp unitShort
  have bundles := scheduled.bundles_eq
  have count := scheduled.count_eq
  have blocks := scheduled.holds.blocks_eq
  have stream := scheduled.holds.stream_eq
  rw [Option.getD_some] at stream
  have shallowUnit : LawfulSerial.levels τ ≤ Msgpack.maxDepth :=
    Nat.le_trans (Nat.le_add_right _ 2) shallow
  refine ⟨scheduled.headed, scheduled.planned, bundles, count.symm,
    scheduled.unpack_stream words headerShort, ?_, ?_, ?_⟩
  · have read := readParts_messages unitWords unitShort shallowUnit []
    rwa [List.append_nil, ← count, ← blocks] at read
  · intro i unit listed
    have member : unit ∈ tasks.flatMap (units taskSize) := List.mem_of_getElem? listed
    obtain ⟨inside, rfl⟩ := List.getElem?_eq_some_iff.mp listed
    have front : set.blocks.drop i =
        writeMessage (tasks.flatMap (units taskSize))[i] :: set.blocks.drop (i + 1) := by
      rw [blocks, List.drop_eq_getElem_cons (by rwa [List.length_map]), List.getElem_map]
    rw [front, List.flatten_cons]
    exact readMessage_writeMessage (unitWords _ member) (unitShort _ member) shallowUnit _
  · rw [stream]
    exact Envelope.read?_response scheduled.packed (bundles.trans count)
      ⟨headerWords, unitWords⟩ ⟨headerShort, unitShort⟩ shallow

end ReadsBack

/-- The response to an accepted query of either shape is read back, in parts and
as one message. -/
theorem scheduleQuery_readsBack :
    (∀ (query : SliceQuery) (taskSize : Nat) (set : TaskSet), fitWords query = true →
      shortMessages query taskSize set.count = true → scheduleQuery query taskSize = .ok set →
        ∃ header tasks, ReadsBack query taskSize set header tasks) ∧
    (∀ (query : CurtainQuery) (taskSize : Nat) (set : TaskSet), fitWords query = true →
      shortMessages query taskSize set.count = true → scheduleQuery query taskSize = .ok set →
        ∃ header tasks, ReadsBack query taskSize set header tasks) := by
  constructor
  · intro query taskSize set words short accepted
    obtain ⟨tasks, header, envelope, scheduled⟩ := scheduleQuery_eq_ok accepted
    exact ⟨header, tasks, scheduled.readsBack words short (by decide)⟩
  · intro query taskSize set words short accepted
    obtain ⟨tasks, header, envelope, scheduled⟩ := scheduleQuery_eq_ok accepted
    exact ⟨header, tasks, scheduled.readsBack words short (by decide)⟩

theorem smallSlice_short : shortMessages smallSlice 3 3 = true := by
  rw [shortMessages, smallSlice_normalized]
  decide +kernel

theorem smallCurtain_short : shortMessages smallCurtain 3 3 = true := by
  rw [shortMessages, smallCurtain_normalized, smallCurtain_tasks]
  decide +kernel

/-- The responses to the small slice and the small curtain are read back. -/
theorem small_queries_readBack :
    (∃ set header tasks, scheduleQuery smallSlice 3 = .ok set ∧
      ReadsBack smallSlice 3 set header tasks) ∧
    (∃ set header tasks, scheduleQuery smallCurtain 3 = .ok set ∧
      ReadsBack smallCurtain 3 set header tasks) := by
  constructor
  · obtain ⟨set, accepted, count⟩ := map_eq_ok.mp smallSlice_count
    have short : shortMessages smallSlice 3 set.count = true := by
      rw [count]
      exact smallSlice_short
    obtain ⟨header, tasks, reads⟩ :=
      scheduleQuery_readsBack.1 smallSlice 3 set (by decide) short accepted
    exact ⟨set, header, tasks, accepted, reads⟩
  · obtain ⟨set, accepted, count⟩ := map_eq_ok.mp smallCurtain_count
    have short : shortMessages smallCurtain 3 set.count = true := by
      rw [count]
      exact smallCurtain_short
    obtain ⟨header, tasks, reads⟩ :=
      scheduleQuery_readsBack.2 smallCurtain 3 set (by decide) short accepted
    exact ⟨set, header, tasks, accepted, reads⟩

end SurveyCube
