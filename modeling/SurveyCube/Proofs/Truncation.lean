import SurveyCube.Proofs.Response
import SurveyCube.Proofs.Streaming

/-!
# Responses that are cut short

A client takes the envelope off a stream and then reads as many parts as it
announces.  `Envelope.reading` is what these calls return, up to the one that
fails.

* The calls on the front of a stream return what they return on the whole
  stream, as long as they succeed.  This holds of any bytes.
* The response to an accepted query is read to its last byte, so that on
  anything shorter one of the calls fails.
-/

namespace SurveyCube

/-- What is read of a response: its header with the number of parts, if they
are found, the parts in front of a bad one, and how the last call ends. -/
structure Reading (τ : Type) where
  announced : Option (ProcessHeader × Nat)
  parts : List τ
  outcome : Except Fault Bytes

/-- What is read of a stream without its last bytes, next to what is read of the
whole stream. -/
structure Reading.Initial {τ : Type} (front whole : Reading τ) (cut : Bytes) : Prop where
  announced : ∀ found, front.announced = some found → whole.announced = some found
  parts : front.parts <+: whole.parts
  /-- There is one reason only to fail. -/
  fault : ∀ fault, front.outcome = .error fault → fault.kind = .serialization
  /-- If no call fails, then the whole stream has nothing more to give. -/
  complete : ∀ rest, front.outcome = .ok rest →
    whole = { front with outcome := .ok (rest ++ cut) }

namespace Envelope

variable (τ : Type) [Serial τ]

/-- What is read of a response that is taken apart. -/
def reading (bytes : Bytes) : Reading τ :=
  match unpack bytes with
  | .error fault => { announced := none, parts := [], outcome := .error fault }
  | .ok (header, count, rest) =>
      let (parts, outcome) := readParts τ count rest
      { announced := some (header, count), parts, outcome }

theorem listLength_append {bytes rest : Bytes} {length : Nat}
    (found : listLength bytes = .ok (length, rest)) (later : Bytes) :
    listLength (bytes ++ later) = .ok (length, rest ++ later) := by
  unfold listLength at found ⊢
  cases announced : Msgpack.listLength? bytes with
  | none =>
      rw [announced] at found
      cases found
  | some pair =>
      rw [announced] at found
      cases found
      rw [Msgpack.listLength?_streams announced later]

theorem kind_of_listLength {bytes : Bytes} {fault : Fault}
    (failed : listLength bytes = .error fault) : fault.kind = .serialization := by
  unfold listLength at failed
  split at failed
  · cases failed
  · cases failed
    rfl

theorem unpack_eq_ok {bytes rest : Bytes} {header : ProcessHeader} {count : Nat} :
    unpack bytes = .ok (header, count, rest) ↔
      ∃ inner body, listLength bytes = .ok (2, inner) ∧
        readMessage ProcessHeader inner = .ok (header, body) ∧
          listLength body = .ok (count, rest) := by
  constructor
  · intro found
    obtain ⟨⟨outer, inner⟩, first, found⟩ := bind_eq_ok.mp found
    by_cases two : outer = 2
    · subst two
      simp only [if_pos] at found
      obtain ⟨⟨header, body⟩, message, found⟩ := bind_eq_ok.mp found
      obtain ⟨⟨count, rest⟩, parts, found⟩ := bind_eq_ok.mp found
      cases pure_eq_ok.mp found
      exact ⟨inner, body, first, message, parts⟩
    · simp only [if_neg two] at found
      cases found
  · rintro ⟨inner, body, first, message, parts⟩
    simp [unpack, first, message, parts, bind, Except.bind, pure, Except.pure]

theorem unpack_append {bytes rest : Bytes} {header : ProcessHeader} {count : Nat}
    (found : unpack bytes = .ok (header, count, rest)) (later : Bytes) :
    unpack (bytes ++ later) = .ok (header, count, rest ++ later) := by
  obtain ⟨inner, body, first, message, parts⟩ := unpack_eq_ok.mp found
  exact unpack_eq_ok.mpr ⟨inner ++ later, body ++ later, listLength_append first later,
    readMessage_append message later, listLength_append parts later⟩

theorem kind_of_unpack {bytes : Bytes} {fault : Fault} (failed : unpack bytes = .error fault) :
    fault.kind = .serialization := by
  rcases bind_eq_error.mp failed with stopped | ⟨⟨outer, inner⟩, _, failed⟩
  · exact kind_of_listLength stopped
  by_cases two : outer = 2
  · simp only [if_pos two] at failed
    rcases bind_eq_error.mp failed with stopped | ⟨⟨header, body⟩, _, failed⟩
    · exact kind_of_readMessage stopped
    rcases bind_eq_error.mp failed with stopped | ⟨_, _, impossible⟩
    · exact kind_of_listLength stopped
    · cases impossible
  · simp only [if_neg two] at failed
    cases failed
    rfl

variable {τ}

/-- Reading a number of parts from the front of a stream: either some part is not
there, or they are all the same and the rest of the stream is left. -/
theorem readParts_append (count : Nat) (bytes cut : Bytes) :
    (∃ fault, (readParts τ count bytes).2 = .error fault ∧ fault.kind = .serialization ∧
      (readParts τ count bytes).1 <+: (readParts τ count (bytes ++ cut)).1) ∨
    (∃ parts rest, readParts τ count bytes = (parts, .ok rest) ∧
      readParts τ count (bytes ++ cut) = (parts, .ok (rest ++ cut))) := by
  induction count generalizing bytes with
  | zero => exact Or.inr ⟨[], bytes, rfl, rfl⟩
  | succ count ih =>
      cases read : readMessage τ bytes with
      | error fault =>
          left
          rw [readParts, read]
          exact ⟨fault, rfl, kind_of_readMessage read, List.nil_prefix⟩
      | ok pair =>
          obtain ⟨part, after⟩ := pair
          simp only [readParts, read, readMessage_append read cut]
          rcases ih after with ⟨fault, failed, kind, initial⟩ | ⟨parts, rest, here, there⟩
          · exact Or.inl ⟨fault, failed, kind, List.cons_prefix_cons.mpr ⟨rfl, initial⟩⟩
          · rw [here, there]
            exact Or.inr ⟨part :: parts, rest, rfl, rfl⟩

/-- What is read of the front of a stream comes first in what is read of the
stream. -/
theorem reading_append (front cut : Bytes) :
    (reading τ front).Initial (reading τ (front ++ cut)) cut := by
  unfold reading
  cases taken : unpack front with
  | error fault =>
      refine ⟨?_, List.nil_prefix, ?_, ?_⟩
      · intro found impossible
        cases impossible
      · intro other same
        cases same
        exact kind_of_unpack taken
      · intro rest impossible
        cases impossible
  | ok found =>
      obtain ⟨header, count, rest⟩ := found
      rw [unpack_append taken cut]
      rcases readParts_append (τ := τ) count rest cut with
        ⟨fault, failed, kind, initial⟩ | ⟨parts, left, here, there⟩
      · refine ⟨fun _ same => same, initial, ?_, ?_⟩
        · intro other same
          cases failed.symm.trans same
          exact kind
        · intro left impossible
          cases failed.symm.trans impossible
      · simp only [here, there]
        refine ⟨fun _ same => same, List.prefix_rfl, ?_, ?_⟩
        · intro fault impossible
          cases impossible
        · intro left same
          cases same
          rfl

end Envelope

section Truncated

variable {α τ ι : Type} [Schedulable α τ] [Divisible τ ι] [Serial τ] {query : α}
  {taskSize : Nat} {set : TaskSet} {header : ProcessHeader} {tasks : List τ}

theorem ReadsBack.reading_eq (reads : ReadsBack query taskSize set header tasks) :
    Envelope.reading τ set.stream =
      ⟨some (header, set.count), tasks.flatMap (units taskSize), .ok []⟩ := by
  simp only [Envelope.reading, reads.unpacked, reads.parts]

/-- A response that is read to its end is read from nothing shorter. -/
theorem ReadsBack.outcome_front (reads : ReadsBack query taskSize set header tasks)
    {front cut : Bytes} (split : set.stream = front ++ cut) (proper : cut ≠ []) :
    ∃ fault, (Envelope.reading τ front).outcome = .error fault ∧
      fault.kind = .serialization := by
  have initial := Envelope.reading_append (τ := τ) front cut
  have whole := reads.reading_eq
  rw [split] at whole
  cases outcome : (Envelope.reading τ front).outcome with
  | error fault => exact ⟨fault, rfl, initial.fault fault outcome⟩
  | ok rest =>
      have both := initial.complete rest outcome
      rw [whole] at both
      have outcomes : (Except.ok [] : Except Fault Bytes) = .ok (rest ++ cut) :=
        congrArg Reading.outcome both
      have nothing : rest ++ cut = [] := (Except.ok.inj outcomes).symm
      exact absurd (List.append_eq_nil_iff.mp nothing).2 proper

/-- A response that is read to its end has bytes to lose. -/
theorem ReadsBack.stream_ne_nil (reads : ReadsBack query taskSize set header tasks) :
    set.stream ≠ [] := by
  intro empty
  have taken := reads.unpacked
  rw [empty] at taken
  cases taken

end Truncated

/-- However a response to a query of either shape is cut, what is read of it is
read of the whole response as well; and if the response is in the limits of the
format, then a proper part of it is not read to the end. -/
theorem truncated_response_stops :
    (∀ (query : SliceQuery) (taskSize : Nat) (set : TaskSet),
      scheduleQuery query taskSize = .ok set → ∀ front cut, set.stream = front ++ cut →
        (Envelope.reading SliceTask front).Initial (Envelope.reading SliceTask set.stream) cut ∧
        (fitWords query = true → shortMessages query taskSize set.count = true → cut ≠ [] →
          ∃ fault, (Envelope.reading SliceTask front).outcome = .error fault ∧
            fault.kind = .serialization)) ∧
    (∀ (query : CurtainQuery) (taskSize : Nat) (set : TaskSet),
      scheduleQuery query taskSize = .ok set → ∀ front cut, set.stream = front ++ cut →
        (Envelope.reading CurtainTask front).Initial
          (Envelope.reading CurtainTask set.stream) cut ∧
        (fitWords query = true → shortMessages query taskSize set.count = true → cut ≠ [] →
          ∃ fault, (Envelope.reading CurtainTask front).outcome = .error fault ∧
            fault.kind = .serialization)) := by
  constructor
  · intro query taskSize set accepted front cut split
    constructor
    · rw [split]
      exact Envelope.reading_append front cut
    · intro words short proper
      obtain ⟨tasks, header, envelope, scheduled⟩ := scheduleQuery_eq_ok accepted
      exact (scheduled.readsBack words short (by decide)).outcome_front split proper
  · intro query taskSize set accepted front cut split
    constructor
    · rw [split]
      exact Envelope.reading_append front cut
    · intro words short proper
      obtain ⟨tasks, header, envelope, scheduled⟩ := scheduleQuery_eq_ok accepted
      exact (scheduled.readsBack words short (by decide)).outcome_front split proper

/-- The responses to the small slice and the small curtain lose their last byte. -/
theorem small_responses_cut :
    (∃ set front cut fault, scheduleQuery smallSlice 3 = .ok set ∧ cut.length = 1 ∧
      set.stream = front ++ cut ∧
        (Envelope.reading SliceTask front).Initial (Envelope.reading SliceTask set.stream) cut ∧
          (Envelope.reading SliceTask front).outcome = .error fault) ∧
    (∃ set front cut fault, scheduleQuery smallCurtain 3 = .ok set ∧ cut.length = 1 ∧
      set.stream = front ++ cut ∧
        (Envelope.reading CurtainTask front).Initial
          (Envelope.reading CurtainTask set.stream) cut ∧
          (Envelope.reading CurtainTask front).outcome = .error fault) := by
  constructor
  · obtain ⟨set, accepted, count⟩ := map_eq_ok.mp smallSlice_count
    have short : shortMessages smallSlice 3 set.count = true := by
      rw [count]
      exact smallSlice_short
    obtain ⟨tasks, header, envelope, scheduled⟩ := scheduleQuery_eq_ok accepted
    have nonempty := (scheduled.readsBack (by decide) short (by decide)).stream_ne_nil
    have split := (List.dropLast_append_getLast nonempty).symm
    obtain ⟨initial, stops⟩ :=
      truncated_response_stops.1 smallSlice 3 set accepted _ _ split
    obtain ⟨fault, failed, _⟩ := stops (by decide) short (by simp)
    exact ⟨set, _, _, fault, accepted, rfl, split, initial, failed⟩
  · obtain ⟨set, accepted, count⟩ := map_eq_ok.mp smallCurtain_count
    have short : shortMessages smallCurtain 3 set.count = true := by
      rw [count]
      exact smallCurtain_short
    obtain ⟨tasks, header, envelope, scheduled⟩ := scheduleQuery_eq_ok accepted
    have nonempty := (scheduled.readsBack (by decide) short (by decide)).stream_ne_nil
    have split := (List.dropLast_append_getLast nonempty).symm
    obtain ⟨initial, stops⟩ :=
      truncated_response_stops.2 smallCurtain 3 set accepted _ _ split
    obtain ⟨fault, failed, _⟩ := stops (by decide) short (by simp)
    exact ⟨set, _, _, fault, accepted, rfl, split, initial, failed⟩

end SurveyCube
