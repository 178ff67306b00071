import SurveyCube.Document
import SurveyCube.Proofs.Msgpack

/-!
# Reading from a stream

A reader takes a value from the start of a byte string and returns what follows.
It `Streams` if what follows has no influence on the value and is returned as it
is.  Such a reader finds in the front of a stream what it finds in the whole
stream, or it finds nothing there.

* Readers that stream are put together by `Streams.map` and `Streams.bind`.
* The tag in front says what kind of value comes, so that further bytes never
  turn an atom into a list or a record.
* What a reader of values makes of a message depends on the message alone.
-/

namespace SurveyCube

variable {α β : Type}

/-- What follows a value has no influence on it. -/
def Streams (read : Bytes → Option (α × Bytes)) : Prop :=
  ∀ ⦃bytes : Bytes⦄ ⦃value : α⦄ ⦃rest : Bytes⦄, read bytes = some (value, rest) →
    ∀ later, read (bytes ++ later) = some (value, rest ++ later)

namespace Streams

variable {read : Bytes → Option (α × Bytes)}

theorem pure (value : α) : Streams fun bytes => some (value, bytes) := by
  intro bytes found rest same later
  cases same
  rfl

theorem bind (streams : Streams read) {next : α → Bytes → Option (β × Bytes)}
    (each : ∀ value, Streams (next value)) :
    Streams fun bytes => (read bytes).bind fun (value, rest) => next value rest := by
  intro bytes result rest found later
  obtain ⟨⟨value, middle⟩, first, second⟩ := Option.bind_eq_some_iff.mp found
  have here := streams first later
  have there := each value second later
  simp only [here, Option.bind_some, there]

theorem map (streams : Streams read) (f : α → β) :
    Streams fun bytes => (read bytes).map fun (value, rest) => (f value, rest) := by
  intro bytes result rest found later
  obtain ⟨⟨value, middle⟩, first, same⟩ := Option.map_eq_some_iff.mp found
  cases same
  simp only [streams first later, Option.map_some]

end Streams

theorem Bytes.take?_streams (n : Nat) : Streams (take? n) := by
  intro bytes taken rest found later
  obtain ⟨rfl, rfl⟩ := take?_eq_some found
  rw [List.append_assoc]
  exact take?_append taken (rest ++ later)

namespace Msgpack

/-! ## Atoms -/

theorem word?_streams (width : Nat) : Streams (word? width) :=
  (Bytes.take?_streams width).map Bytes.ofBigEndian

theorem text?_streams (length : Nat) : Streams (text? length) :=
  (Bytes.take?_streams length).map Atom.text

theorem raw?_streams (length : Nat) : Streams (raw? length) :=
  (Bytes.take?_streams length).map Atom.bytes

theorem extension?_streams (length : Nat) : Streams (extension? length) :=
  (Bytes.take?_streams (length + 1)).map fun _ => Atom.extension

theorem unsigned?_streams (width : Nat) : Streams (unsigned? width) :=
  (word?_streams width).map (Atom.word width)

theorem signed?_streams (width : Nat) : Streams (signed? width) :=
  (word?_streams width).map fun n => Atom.scalar (.int (Bytes.signed width n))

theorem atom?_streams (tag : UInt8) : Streams (atom? tag) := by
  intro bytes atom rest found later
  unfold atom? at found ⊢
  by_cases small : tag < 0x80
  · rw [if_pos small] at found ⊢
    exact Streams.pure _ found later
  rw [if_neg small] at found ⊢
  by_cases negative : 0xe0 ≤ tag
  · rw [if_pos negative] at found ⊢
    exact Streams.pure _ found later
  rw [if_neg negative] at found ⊢
  by_cases short : (0xa0 ≤ tag && tag < 0xc0) = true
  · rw [if_pos short] at found ⊢
    exact text?_streams _ found later
  rw [if_neg short] at found ⊢
  generalize tag.toNat = n at found ⊢
  split at found
  case h_1 | h_2 | h_3 => exact Streams.pure _ found later
  case h_4 | h_5 | h_6 => exact (word?_streams _).bind raw?_streams found later
  case h_7 | h_8 | h_9 => exact (word?_streams _).bind extension?_streams found later
  case h_10 =>
    exact (word?_streams 4).map (fun bits => Atom.scalar (.real (Binary64.ofSingle bits)))
      found later
  case h_11 =>
    exact (word?_streams 8).map (fun bits => Atom.scalar (.real ⟨UInt64.ofNat bits⟩))
      found later
  case h_12 | h_13 | h_14 | h_15 => exact unsigned?_streams _ found later
  case h_16 | h_17 | h_18 | h_19 => exact signed?_streams _ found later
  case h_20 | h_21 | h_22 | h_23 | h_24 => exact extension?_streams _ found later
  case h_25 | h_26 | h_27 => exact (word?_streams _).bind text?_streams found later
  case h_28 => cases found

/-- Only the tag of an atom is read as one. -/
theorem atomTag_of_atom? {tag : UInt8} {bytes : Bytes} {found : Atom × Bytes}
    (read : atom? tag bytes = some found) : AtomTag tag := by
  have limits :
      UInt8.toNat 0x80 = 0x80 ∧ UInt8.toNat 0xa0 = 0xa0 ∧ UInt8.toNat 0xc0 = 0xc0 ∧
        UInt8.toNat 0xe0 = 0xe0 := by
    decide
  unfold atom? at read
  simp only [Bool.and_eq_true, decide_eq_true_eq, UInt8.le_iff_toNat_le,
    UInt8.lt_iff_toNat_lt] at read
  unfold AtomTag
  by_cases small : tag.toNat < 0x80
  · omega
  by_cases negative : 0xe0 ≤ tag.toNat
  · omega
  by_cases short : 0xa0 ≤ tag.toNat ∧ tag.toNat < 0xc0
  · omega
  rw [if_neg (by omega), if_neg (by omega), if_neg (by omega)] at read
  split at read
  case h_28 => cases read
  all_goals omega

theorem nestedAtom?_streams (bound : Nat) (tag : UInt8) : Streams (nestedAtom? bound tag) := by
  intro bytes atom rest found later
  unfold nestedAtom? at found ⊢
  cases read : atom? tag bytes with
  | none =>
      rw [read] at found
      cases found
  | some pair =>
      obtain ⟨value, tail⟩ := pair
      rw [read] at found
      rw [atom?_streams tag read later]
      cases value with
      | extension =>
          by_cases innermost : bound = 0
          · simp [innermost] at found
          · simp only [if_neg innermost] at found ⊢
            exact Streams.pure _ found later
      | _ => exact Streams.pure _ found later

theorem atomTag_of_nestedAtom? {bound : Nat} {tag : UInt8} {bytes : Bytes} {found : Atom × Bytes}
    (read : nestedAtom? bound tag bytes = some found) : AtomTag tag := by
  unfold nestedAtom? at read
  cases atom : atom? tag bytes with
  | none =>
      rw [atom] at read
      cases read
  | some pair => exact atomTag_of_atom? atom

/-! ## Lists and records -/

theorem listLength?_streams : Streams listLength? := by
  intro bytes length rest found later
  cases bytes with
  | nil => cases found
  | cons tag tail =>
      rw [List.cons_append]
      simp only [listLength?] at found ⊢
      by_cases fixed : (0x90 ≤ tag && tag < 0xa0) = true
      · rw [if_pos fixed] at found ⊢
        exact Streams.pure _ found later
      rw [if_neg fixed] at found ⊢
      by_cases two : tag = 0xdc
      · rw [if_pos two] at found ⊢
        exact word?_streams 2 found later
      rw [if_neg two] at found ⊢
      by_cases four : tag = 0xdd
      · rw [if_pos four] at found ⊢
        exact word?_streams 4 found later
      rw [if_neg four] at found
      cases found

theorem recordLength?_streams : Streams recordLength? := by
  intro bytes length rest found later
  cases bytes with
  | nil => cases found
  | cons tag tail =>
      rw [List.cons_append]
      simp only [recordLength?] at found ⊢
      by_cases fixed : (0x80 ≤ tag && tag < 0x90) = true
      · rw [if_pos fixed] at found ⊢
        exact Streams.pure _ found later
      rw [if_neg fixed] at found ⊢
      by_cases two : tag = 0xde
      · rw [if_pos two] at found ⊢
        exact word?_streams 2 found later
      rw [if_neg two] at found ⊢
      by_cases four : tag = 0xdf
      · rw [if_pos four] at found ⊢
        exact word?_streams 4 found later
      rw [if_neg four] at found
      cases found

/-- What starts as a record does not start as a list, however it goes on. -/
theorem listLength?_of_recordLength? {tag : UInt8} {tail : Bytes} {found : Nat × Bytes}
    (announced : recordLength? (tag :: tail) = some found) (other : Bytes) :
    listLength? (tag :: other) = none := by
  have limits :
      UInt8.toNat 0x80 = 0x80 ∧ UInt8.toNat 0x90 = 0x90 ∧ UInt8.toNat 0xa0 = 0xa0 ∧
        UInt8.toNat 0xdc = 0xdc ∧ UInt8.toNat 0xdd = 0xdd ∧ UInt8.toNat 0xde = 0xde ∧
        UInt8.toNat 0xdf = 0xdf := by
    decide
  simp only [recordLength?, listLength?, Bool.and_eq_true, decide_eq_true_eq,
    UInt8.le_iff_toNat_le, UInt8.lt_iff_toNat_lt, ← UInt8.toNat_inj] at announced ⊢
  split at announced
  · rw [if_neg (by omega), if_neg (by omega), if_neg (by omega)]
  · split at announced
    · rw [if_neg (by omega), if_neg (by omega), if_neg (by omega)]
    · split at announced
      · rw [if_neg (by omega), if_neg (by omega), if_neg (by omega)]
      · cases announced

/-- Further bytes leave a list or a record what it is. -/
theorem isSome_announced {bytes : Bytes}
    (compound : ((listLength? bytes).isSome || (recordLength? bytes).isSome) = true)
    (later : Bytes) :
    ((listLength? (bytes ++ later)).isSome || (recordLength? (bytes ++ later)).isSome) = true := by
  rw [Bool.or_eq_true] at compound ⊢
  rcases compound with list | record
  · obtain ⟨⟨length, rest⟩, announced⟩ := Option.isSome_iff_exists.mp list
    rw [listLength?_streams announced later]
    exact Or.inl rfl
  · obtain ⟨⟨length, rest⟩, announced⟩ := Option.isSome_iff_exists.mp record
    rw [recordLength?_streams announced later]
    exact Or.inr rfl

section Containers

variable {read : Bytes → Option (Datum × Bytes)}

theorem items?_streams (streams : Streams read) (count : Nat) : Streams (items? read count) := by
  induction count with
  | zero => exact Streams.pure []
  | succ count ih =>
      exact streams.bind fun item => ih.bind fun later => Streams.pure (item :: later)

theorem entries?_streams {label : Bytes → Option (Label × Bytes)} (streams : Streams read)
    (labelled : Streams label) (count : Nat) : Streams (entries? read label count) := by
  induction count with
  | zero => exact Streams.pure []
  | succ count ih =>
      exact labelled.bind fun name => streams.bind fun value => ih.bind fun later =>
        Streams.pure ((name, value) :: later)

theorem list?_streams (streams : Streams read) (count : Nat) : Streams (list? read count) :=
  (items?_streams streams count).map Datum.list

theorem record?_streams {label : Bytes → Option (Label × Bytes)} (streams : Streams read)
    (labelled : Streams label) (count : Nat) : Streams (record? read label count) :=
  (entries?_streams streams labelled count).map entriesDatum

theorem label?_streams (streams : Streams read) (bound : Nat) : Streams (label? read bound) := by
  intro bytes label rest found later
  cases bytes with
  | nil => cases found
  | cons tag tail =>
      rw [List.cons_append]
      by_cases compound :
          ((listLength? (tag :: tail)).isSome || (recordLength? (tag :: tail)).isSome) = true
      · have still := isSome_announced compound later
        rw [List.cons_append] at still
        simp only [label?, if_pos compound] at found
        simp only [label?, if_pos still]
        exact streams.map (fun _ => Label.compound) found later
      · simp only [label?, if_neg compound] at found
        obtain ⟨⟨atom, after⟩, read, same⟩ := Option.map_eq_some_iff.mp found
        have atomic := atomTag_of_nestedAtom? read
        cases same
        rw [label?, listLength?_of_atomTag atomic, recordLength?_of_atomTag atomic]
        simp [nestedAtom?_streams bound tag read later]

end Containers

/-! ## Messages -/

theorem value?_streams (bound : Nat) : Streams (value? bound) := by
  induction bound with
  | zero =>
      intro bytes datum rest found later
      cases bytes with
      | nil => cases found
      | cons tag tail => exact (nestedAtom?_streams 0 tag).map Atom.toDatum found later
  | succ bound ih =>
      intro bytes datum rest found later
      cases bytes with
      | nil => cases found
      | cons tag tail =>
          cases list : listLength? (tag :: tail) with
          | some announced =>
              obtain ⟨count, inner⟩ := announced
              rw [value?, list] at found
              exact value?_of_listLength (listLength?_streams list later)
                (list?_streams ih count found later)
          | none =>
              cases record : recordLength? (tag :: tail) with
              | some announced =>
                  obtain ⟨count, inner⟩ := announced
                  rw [value?, list, record] at found
                  exact value?_of_recordLength (listLength?_of_recordLength? record (tail ++ later))
                    (recordLength?_streams record later)
                    (record?_streams ih (label?_streams ih bound) count found later)
              | none =>
                  rw [value?, list, record] at found
                  obtain ⟨⟨atom, after⟩, read, same⟩ := Option.map_eq_some_iff.mp found
                  have atomic := atomTag_of_nestedAtom? read
                  cases same
                  rw [List.cons_append, value?, listLength?_of_atomTag atomic,
                    recordLength?_of_atomTag atomic]
                  simp [nestedAtom?_streams (bound + 1) tag read later]

theorem read?_streams : Streams read? :=
  value?_streams maxDepth

theorem position?_streams : Streams position? := by
  intro bytes position rest found later
  cases bytes with
  | nil => cases found
  | cons tag tail =>
      rw [List.cons_append]
      cases read : atom? tag tail with
      | none =>
          rw [position?, read] at found
          cases found
      | some pair =>
          obtain ⟨atom, after⟩ := pair
          cases atom with
          | word width n =>
              rw [position?, read] at found
              cases found
              rw [position?, atom?_streams tag read later]
          | _ =>
              rw [position?, read] at found
              cases found

/-- A position is a number as well. -/
theorem read?_of_position? {bytes rest : Bytes} {position : Nat}
    (found : position? bytes = some (position, rest)) :
    read? bytes = some (.int position, rest) := by
  cases bytes with
  | nil => cases found
  | cons tag tail =>
      cases read : atom? tag tail with
      | none =>
          rw [position?, read] at found
          cases found
      | some pair =>
          obtain ⟨atom, after⟩ := pair
          cases atom with
          | word width n =>
              have atomic := atomTag_of_atom? read
              rw [position?, read] at found
              cases found
              have start : StartsWith (tag :: tail) (.word width position) rest :=
                ⟨by simp, tag, tail, rfl, atomic, read⟩
              exact start.value?_eq maxDepth
          | _ =>
              rw [position?, read] at found
              cases found

end Msgpack

/-! ## Values -/

section Values

variable [Serial α]

theorem message?_streams : Streams (message? α) := by
  intro bytes value rest found later
  obtain ⟨⟨datum, after⟩, read, found⟩ := Option.bind_eq_some_iff.mp found
  obtain ⟨other, same, found⟩ := Option.bind_eq_some_iff.mp found
  cases found
  rw [message?, Msgpack.read?_streams read later]
  simp [same]

theorem positioned?_streams : Streams (positioned? α) := by
  intro bytes value rest found later
  obtain ⟨⟨position, after⟩, read, found⟩ := Option.bind_eq_some_iff.mp found
  obtain ⟨other, same, found⟩ := Option.bind_eq_some_iff.mp found
  cases found
  rw [positioned?, Msgpack.position?_streams read later]
  simp [same]

/-- A position whose number is no value stays one, however the stream goes on. -/
theorem message?_eq_none {bytes rest : Bytes} {value : α}
    (none : message? α bytes = none) (found : positioned? α bytes = some (value, rest))
    (later : Bytes) : message? α (bytes ++ later) = .none := by
  obtain ⟨⟨position, after⟩, read, _⟩ := Option.bind_eq_some_iff.mp found
  have number := Msgpack.read?_of_position? read
  have still := Msgpack.read?_streams number later
  rw [message?, number] at none
  rw [message?, still]
  simpa using none

theorem readMessage_append {bytes rest : Bytes} {value : α}
    (found : readMessage α bytes = .ok (value, rest)) (later : Bytes) :
    readMessage α (bytes ++ later) = .ok (value, rest ++ later) := by
  unfold readMessage at found ⊢
  cases message : message? α bytes with
  | some pair =>
      rw [message] at found
      cases found
      rw [message?_streams message later]
  | none =>
      cases position : positioned? α bytes with
      | none =>
          rw [message, position] at found
          cases found
      | some pair =>
          rw [message, position] at found
          cases found
          rw [message?_eq_none message position later, positioned?_streams position later]

theorem kind_of_readMessage {bytes : Bytes} {fault : Fault}
    (failed : readMessage α bytes = .error fault) : fault.kind = .serialization := by
  unfold readMessage at failed
  split at failed
  case h_1 | h_2 => cases failed
  case h_3 =>
    cases failed
    rfl

end Values

end SurveyCube
