import SurveyCube.Envelope
import SurveyCube.Proofs.Msgpack
import SurveyCube.Proofs.Outcome
import SurveyCube.Proofs.Serial

/-!
# Messages and responses are read back

* The message of a value is read back in front of any other bytes.
* Messages one after the other are read back as parts, in order.
* An envelope is taken apart into its header and the number of parts.
* An envelope and its parts together are the message of one list of two items.
-/

namespace SurveyCube

section Messages

variable {α : Type} [Serial α]

/-- The lengths of all texts and lists of a value fit the tags of a message. -/
def packable (value : α) : Bool :=
  (toDatum value).isShort

theorem packable_list_iff {values : List α} :
    packable values = true ↔
      values.length < Datum.lengthLimit ∧ ∀ value ∈ values, packable value = true := by
  change Datum.isShort (.list (values.map toDatum)) = true ↔ _
  rw [Datum.isShort, Bool.and_eq_true, decide_eq_true_eq, Datum.isShortItems_iff,
    List.length_map, List.forall_mem_map]
  rfl

theorem packItems_map_toDatum (values : List α) :
    Msgpack.packItems (values.map toDatum) = (values.map writeMessage).flatten := by
  induction values with
  | nil => rfl
  | cons value rest ih =>
      rw [List.map_cons, Msgpack.packItems, ih, List.map_cons, List.flatten_cons]
      rfl

variable [Words α] [LawfulSerial α] {value : α}

theorem read?_writeMessage
    (words : fitWords value = true) (short : packable value = true)
    (shallow : LawfulSerial.levels α ≤ Msgpack.maxDepth) (rest : Bytes) :
    Msgpack.read? (writeMessage value ++ rest) = some (toDatum value, rest) :=
  Msgpack.read?_pack (isDocument_toDatum value) (inWords_toDatum words) short
    (Nat.le_trans (depth_toDatum_le value) shallow) rest

/-- The message of a value is read back, whatever follows it. -/
theorem readMessage_writeMessage
    (words : fitWords value = true) (short : packable value = true)
    (shallow : LawfulSerial.levels α ≤ Msgpack.maxDepth) (rest : Bytes) :
    readMessage α (writeMessage value ++ rest) = .ok (value, rest) := by
  have datum := read?_writeMessage words short shallow rest
  have found : message? α (writeMessage value ++ rest) = some (value, rest) := by
    rw [message?, datum]
    simp [ofDatum?_toDatum words]
  rw [readMessage, found]

/-- Messages one after the other are read back in order. -/
theorem readParts_messages
    {values : List α} (words : ∀ value ∈ values, fitWords value = true)
    (short : ∀ value ∈ values, packable value = true)
    (shallow : LawfulSerial.levels α ≤ Msgpack.maxDepth) (rest : Bytes) :
    Envelope.readParts α values.length ((values.map writeMessage).flatten ++ rest) =
      (values, .ok rest) := by
  induction values with
  | nil => rfl
  | cons value later ih =>
      rw [List.forall_mem_cons] at words short
      have first := readMessage_writeMessage words.1 short.1 shallow
        ((later.map writeMessage).flatten ++ rest)
      have others := ih words.2 short.2
      rw [List.map_cons, List.flatten_cons, List.append_assoc, List.length_cons,
        Envelope.readParts, first]
      simp only [others]

end Messages

namespace Envelope

theorem listLength_listTag {length : Nat} (fits : length < Datum.lengthLimit) (rest : Bytes) :
    listLength (Msgpack.listTag length ++ rest) = .ok (length, rest) := by
  rw [listLength, Msgpack.listLength?_listTag fits]

theorem pack_eq_ok {header : ProcessHeader} {envelope : Bytes} :
    pack header = .ok envelope ↔
      header.bundles ≤ maxListLength ∧
        Msgpack.listTag 2 ++ writeMessage header ++ Msgpack.listTag header.bundles =
          envelope := by
  unfold pack
  split
  · rename_i fits
    simp [fits]
  · rename_i tooMany
    simp [tooMany]

/-- An envelope is taken apart into its header and the number of parts. -/
theorem unpack_pack
    {header : ProcessHeader} {envelope : Bytes} (packed : pack header = .ok envelope)
    (words : fitWords header = true) (short : packable header = true) (rest : Bytes) :
    unpack (envelope ++ rest) = .ok (header, header.bundles, rest) := by
  obtain ⟨fits, rfl⟩ := pack_eq_ok.mp packed
  have below : header.bundles < Datum.lengthLimit := by
    unfold maxListLength at fits
    unfold Datum.lengthLimit
    omega
  have outer := listLength_listTag (show 2 < Datum.lengthLimit by decide)
    (writeMessage header ++ (Msgpack.listTag header.bundles ++ rest))
  have message := readMessage_writeMessage words short (by decide)
    (Msgpack.listTag header.bundles ++ rest)
  have inner := listLength_listTag below rest
  rw [unpack, List.append_assoc, List.append_assoc, outer]
  simp only [bind, Except.bind, if_pos, message, inner]
  rfl

variable {τ : Type} [Serial τ]

/-- The datum of a response as a whole. -/
def wholeDatum (header : ProcessHeader) (parts : List τ) : Datum :=
  .list [toDatum header, .list (parts.map toDatum)]

theorem pack_wholeDatum (header : ProcessHeader) (parts : List τ) :
    Msgpack.pack (wholeDatum header parts) =
      Msgpack.listTag 2 ++ writeMessage header ++ Msgpack.listTag parts.length ++
        (parts.map writeMessage).flatten := by
  rw [wholeDatum, Msgpack.pack, Msgpack.packItems, Msgpack.packItems, Msgpack.packItems,
    Msgpack.pack, packItems_map_toDatum, List.length_map, List.append_nil]
  simp only [List.append_assoc]
  rfl

variable [Words τ] [LawfulSerial τ]

/-- An envelope and as many parts as it announces are one message. -/
theorem read?_response
    {header : ProcessHeader} {envelope : Bytes} {parts : List τ}
    (packed : pack header = .ok envelope) (announced : header.bundles = parts.length)
    (words : fitWords header = true ∧ ∀ part ∈ parts, fitWords part = true)
    (short : packable header = true ∧ ∀ part ∈ parts, packable part = true)
    (shallow : LawfulSerial.levels τ + 2 ≤ Msgpack.maxDepth) :
    Msgpack.read? (envelope ++ (parts.map writeMessage).flatten) =
      some (wholeDatum header parts, []) := by
  obtain ⟨fits, rfl⟩ := pack_eq_ok.mp packed
  have below : parts.length < Datum.lengthLimit := by
    unfold maxListLength at fits
    unfold Datum.lengthLimit
    omega
  have document : (wholeDatum header parts).isDocument = true := by
    rw [wholeDatum, Datum.isDocument, Datum.isDocumentItems_iff, List.forall_mem_cons,
      List.forall_mem_singleton]
    exact ⟨isDocument_toDatum header, isDocument_toDatum parts⟩
  have inWords : (wholeDatum header parts).inWords = true := by
    rw [wholeDatum, Datum.inWords, Datum.inWordsItems_iff, List.forall_mem_cons,
      List.forall_mem_singleton]
    exact ⟨inWords_toDatum words.1, inWords_toDatum (fitWords_list_iff.mpr words.2)⟩
  have isShort : (wholeDatum header parts).isShort = true := by
    have items : ∀ item ∈ parts.map toDatum, item.isShort = true :=
      List.forall_mem_map.mpr short.2
    rw [wholeDatum, Datum.isShort, Datum.isShortItems, Datum.isShortItems, Datum.isShort,
      List.length_map, decide_eq_true below, Datum.isShortItems_iff.mpr items,
      show (toDatum header).isShort = true from short.1]
    rfl
  have depth : (wholeDatum header parts).depth ≤ Msgpack.maxDepth := by
    have front : (toDatum header).depth ≤ LawfulSerial.levels ProcessHeader :=
      depth_toDatum_le header
    have later : (toDatum parts).depth ≤ LawfulSerial.levels τ + 1 := depth_toDatum_le parts
    have few : LawfulSerial.levels ProcessHeader = 2 := rfl
    have items : Datum.depthItems [toDatum header, toDatum parts] + 1 ≤ Msgpack.maxDepth := by
      simp only [Datum.depthItems]
      unfold Msgpack.maxDepth at *
      omega
    exact items
  have read := Msgpack.read?_pack document inWords isShort depth []
  rwa [List.append_nil, pack_wholeDatum, ← announced] at read

end Envelope

end SurveyCube
