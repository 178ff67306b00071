import SurveyCube.Proofs.Alike
import SurveyCube.Proofs.Json.Document
import SurveyCube.Proofs.Plain
import SurveyCube.Stitch.Record

/-!
# Metadata records are read back

A record that was read from a stream has its other fields in canonical form.
Without doubles among them its document is plain, so the document is read as the
same record, whatever bytes follow it.

* `PointRecord.OfFields` says which record is read from fields, and
  `PointRecord.ofDatum?_record_iff` that no other one is.
* `PointRecord.ofFields_written` says that a record is read from its own fields.
* `PointRecord.read?_writeDocument` joins this with what is known of compact
  documents.
-/

namespace SurveyCube

namespace Datum

/-! ## Data without doubles -/

/-- The node is no double. -/
def isIntegralNode : Datum → Bool
  | .real _ => false
  | _ => true

/-- No number of the datum is a double. -/
def isIntegral (datum : Datum) : Bool :=
  datum.all isIntegralNode

theorem isIntegral_list_iff {items : List Datum} :
    (list items).isIntegral = true ↔ ∀ item ∈ items, item.isIntegral = true := by
  simp [isIntegral, all_list_iff, isIntegralNode]

theorem isIntegral_record_iff {fields : List (String × Datum)} :
    (record fields).isIntegral = true ↔ ∀ field ∈ fields, field.2.isIntegral = true := by
  simp [isIntegral, all_record_iff, isIntegralNode]

variable {datum : Datum}

/-- What comes from a document has no table to be spelled out, though parts of it
may be unreadable. -/
theorem spelled_of_isTextual (textual : datum.isTextual = true) : datum.spelled = datum := by
  induction datum using Datum.induction with
  | list items ih =>
      rw [isTextual_list_iff] at textual
      have same : spelledItems items = items := by
        induction items with
        | nil => rfl
        | cons item rest later =>
            rw [List.forall_mem_cons] at ih textual
            rw [spelledItems, ih.1 textual.1, later ih.2 textual.2]
      rw [spelled, same]
  | record fields ih =>
      rw [isTextual_record_iff] at textual
      have same : spelledFields fields = fields := by
        induction fields with
        | nil => rfl
        | cons field rest later =>
            rw [List.forall_mem_cons] at ih textual
            rw [spelledFields, ih.1 textual.1, later ih.2 textual.2]
      rw [spelled, same]
  | null | bool _ | int _ | real _ | text _ | foreign | unreadable => rfl
  | bytes _ | table _ => cases textual

theorem isTextual_of_isPlain (plain : datum.isPlain = true) : datum.isTextual = true := by
  refine all_mono ?_ plain
  intro node holds
  cases node with
  | int _ => exact holds
  | null | bool _ | text _ | list _ | record _ => rfl
  | real _ | bytes _ | table _ | foreign | unreadable => cases holds

theorem isDocument_of_isPlain (plain : datum.isPlain = true) : datum.isDocument = true := by
  induction datum using Datum.induction with
  | list items ih =>
      rw [isPlain_list_iff] at plain
      rw [isDocument, isDocumentItems_iff]
      exact fun item member => ih item member (plain item member)
  | record fields ih =>
      rw [isPlain_record_iff] at plain
      exact isDocument_record fun field member => ih field member (plain.2 field member)
  | null | bool _ | int _ | text _ => rfl
  | real _ | bytes _ | table _ | foreign | unreadable => cases plain

/-- Sorting makes names distinct, so that only doubles are in the way of a plain
canonical form. -/
theorem isPlain_canonical (textual : datum.isTextual = true) (document : datum.isDocument = true)
    (integral : datum.canonical.isIntegral = true) : datum.canonical.isPlain = true := by
  induction datum using Datum.induction with
  | list items ih =>
      rw [canonical, canonicalItems_eq_map] at integral ⊢
      rw [isTextual_list_iff] at textual
      rw [isDocument, isDocumentItems_iff] at document
      rw [isIntegral_list_iff, List.forall_mem_map] at integral
      rw [isPlain_list_iff, List.forall_mem_map]
      intro item member
      exact ih item member (textual item member) (document item member) (integral item member)
  | record fields ih =>
      rw [canonical] at integral ⊢
      rw [isTextual_record_iff] at textual
      rw [isDocument, isDocumentFields_iff] at document
      rw [isIntegral_record_iff] at integral
      rw [isPlain_record_iff]
      refine ⟨names_canonicalFields_nodup fields, ?_⟩
      intro field member
      have without := integral field member
      obtain ⟨value, listed, same⟩ := exists_of_mem_canonicalFields member
      rw [same] at without ⊢
      exact ih _ listed (textual _ listed) (document _ listed) without
  | real value =>
      -- Only a double that is no number would have become something else.
      have finite : value.isFinite = true := textual
      rw [canonical, if_pos finite] at integral
      cases integral
  | int value => exact textual
  | null | bool _ | text _ => rfl
  | bytes _ | table _ | foreign | unreadable => cases document

/-! ## Fields of one name -/

theorem lookup_filter {p : String → Bool} {name : String} (kept : p name = true)
    (fields : List (String × Datum)) :
    (fields.filter fun field => p field.1).lookup name = fields.lookup name := by
  induction fields with
  | nil => rfl
  | cons field rest ih =>
      obtain ⟨other, value⟩ := field
      rw [List.filter_cons, List.lookup_cons]
      by_cases same : name = other
      · subst same
        rw [if_pos kept, List.lookup_cons]
        simp
      · have apart : (name == other) = false := beq_eq_false_iff_ne.mpr same
        split
        · rw [List.lookup_cons, apart, ih]
        · rw [apart, ih]

end Datum

namespace PointRecord

/-- No number of the record is a double. -/
def isIntegral (record : PointRecord) : Bool :=
  (Datum.record record.extra).isIntegral

/-- The fields with the name of the size. -/
def sizes (fields : List (String × Datum)) : List (String × Datum) :=
  fields.filter fun field => field.1 = sizeField

/-- The fields with other names. -/
def others (fields : List (String × Datum)) : List (String × Datum) :=
  fields.filter fun field => field.1 ≠ sizeField

/-- The record is what fields say. -/
structure OfFields (record : PointRecord) (fields : List (String × Datum)) : Prop where
  sizes_eq : sizes fields = [(sizeField, toDatum record.size)]
  word : record.size < wordLimit
  documents : ∀ field ∈ others fields, field.2.isDocument = true
  extra_eq : record.extra = Datum.canonicalFields (others fields)

variable {record : PointRecord} {fields : List (String × Datum)}

/-! ## Reading fields -/

theorem sizes_named (fields : List (String × Datum)) :
    ((Json.named fields).filter fun field => field.1 = some sizeField) =
      Json.named (sizes fields) := by
  rw [Json.named, List.filter_map, Json.named, sizes]
  congr 1
  apply List.filter_congr
  intro field _
  simp

theorem others_named (fields : List (String × Datum)) :
    ((Json.named fields).filter fun field => field.1 ≠ some sizeField) =
      Json.named (others fields) := by
  rw [Json.named, List.filter_map, Json.named, others]
  congr 1
  apply List.filter_congr
  intro field _
  simp

theorem extraField?_eq_some {field kept : String × Datum} :
    extraField? (some field.1, field.2) = some kept ↔
      field.2.spelled.isDocument = true ∧ (field.1, field.2.spelled) = kept := by
  rw [extraField?]
  split
  · next document => simp [document]
  · next otherwise => simp [otherwise]

theorem extraFields?_eq_some (textual : ∀ field ∈ fields, field.2.isTextual = true)
    {extra : List (String × Datum)} :
    extraFields? (Json.named fields) = some extra ↔
      (∀ field ∈ others fields, field.2.isDocument = true) ∧
        Datum.canonicalFields (others fields) = extra := by
  have spelled (field : String × Datum) (member : field ∈ others fields) :
      field.2.spelled = field.2 :=
    Datum.spelled_of_isTextual (textual field (List.mem_of_mem_filter member))
  have same : (others fields).map (fun field => (field.1, field.2.spelled)) = others fields := by
    conv_rhs => rw [← List.map_id (others fields)]
    apply List.map_congr_left
    intro field member
    rw [spelled field member, id]
  rw [extraFields?, others_named, Option.map_eq_some_iff, Json.named, List.mapM_map]
  constructor
  · rintro ⟨kept, traversed, rfl⟩
    obtain ⟨documents, rfl⟩ := (mapM_eq_some_of_iff fun _ _ => extraField?_eq_some).mp traversed
    refine ⟨fun field member => ?_, by rw [same]⟩
    rw [← spelled field member]
    exact documents field member
  · rintro ⟨documents, rfl⟩
    refine ⟨others fields, (mapM_eq_some_of_iff fun _ _ => extraField?_eq_some).mpr ⟨?_, same⟩, rfl⟩
    intro field member
    rw [spelled field member]
    exact documents field member

theorem lookup_sizes (fields : List (String × Datum)) :
    (sizes fields).lookup sizeField = fields.lookup sizeField :=
  Datum.lookup_filter (p := fun name => name = sizeField) (decide_eq_true rfl) fields

theorem sizes_eq_iff {datum : Datum} :
    sizes fields = [(sizeField, datum)] ↔
      (sizes fields).length ≤ 1 ∧ fields.lookup sizeField = some datum := by
  have named : ∀ field ∈ sizes fields, field.1 = sizeField := by
    intro field member
    exact of_decide_eq_true (List.mem_filter.mp member).2
  rw [← lookup_sizes]
  cases found : sizes fields with
  | nil => simp
  | cons field rest =>
      obtain ⟨name, value⟩ := field
      have same : name = sizeField := named (name, value) (by rw [found]; exact List.mem_cons_self)
      subst same
      cases rest with
      | nil => simp
      | cons next later => simp

theorem ofNamed?_sizeField (fields : List (String × Datum)) :
    Datum.Fields.ofNamed? [sizeField] (Json.named fields) =
      if (sizes fields).length ≤ 1 then some (Datum.Fields.ofRecord fields) else none := by
  have count : ((Json.named fields).filter fun field => field.1 = some sizeField).length =
      (sizes fields).length := by
    rw [sizes_named, Json.named, List.length_map]
  have found : (fun name => (Json.named fields).lookup (some name)) =
      Datum.Fields.ofRecord fields := funext (Datum.lookup_spelled fields)
  simp only [Datum.Fields.ofNamed?, List.all_cons, List.all_nil, Bool.and_true, count, found,
    decide_eq_true_eq]

theorem ofDatum?_size_eq_some {n : Nat} {datum : Datum} :
    ofDatum? datum = some n ↔ datum = toDatum n ∧ n < wordLimit := by
  constructor
  · intro read
    simp only [ofDatum?] at read
    split at read
    · split at read
      · next word =>
        cases read
        exact ⟨rfl, word⟩
      · cases read
    · cases read
  · rintro ⟨rfl, word⟩
    exact if_pos word

theorem ofDatum?_record_iff (textual : (Datum.record fields).isTextual = true) :
    ofDatum? (Datum.record fields) = some record ↔ record.OfFields fields := by
  rw [Datum.isTextual_record_iff] at textual
  have opened : (ofDatum? (Datum.record fields) : Option PointRecord) =
      (Datum.Fields.ofNamed? [sizeField] (Json.named fields)).bind fun known =>
        (known.required sizeField).bind fun size =>
          (extraFields? (Json.named fields)).bind fun extra => some { size, extra } := rfl
  rw [opened, ofNamed?_sizeField]
  constructor
  · intro read
    obtain ⟨known, once, read⟩ := Option.bind_eq_some_iff.mp read
    obtain ⟨size, required, read⟩ := Option.bind_eq_some_iff.mp read
    obtain ⟨extra, kept, same⟩ := Option.bind_eq_some_iff.mp read
    split at once
    · next few =>
      cases once
      cases same
      obtain ⟨datum, found, counted⟩ := Option.bind_eq_some_iff.mp required
      obtain ⟨rfl, word⟩ := ofDatum?_size_eq_some.mp counted
      obtain ⟨documents, rfl⟩ := (extraFields?_eq_some textual).mp kept
      exact ⟨sizes_eq_iff.mpr ⟨few, found⟩, word, documents, rfl⟩
    · cases once
  · rintro ⟨single, word, documents, extra⟩
    obtain ⟨few, found⟩ := sizes_eq_iff.mp single
    have counted := ofDatum?_size_eq_some.mpr ⟨rfl, word⟩
    have kept := (extraFields?_eq_some textual).mpr ⟨documents, extra.symm⟩
    rw [if_pos few, Option.bind_some, Datum.Fields.required_ofRecord, found, Option.bind_some,
      counted, Option.bind_some, kept]
    rfl

/-! ## Writing a record -/

namespace OfFields

theorem exists_of_mem_extra (ofFields : record.OfFields fields) {field : String × Datum}
    (member : field ∈ record.extra) :
    field.1 ≠ sizeField ∧ ∃ value, (field.1, value) ∈ fields ∧ value.isDocument = true ∧
      field.2 = value.canonical := by
  rw [ofFields.extra_eq] at member
  obtain ⟨value, kept, same⟩ := Datum.exists_of_mem_canonicalFields member
  obtain ⟨listed, other⟩ := List.mem_filter.mp kept
  exact ⟨of_decide_eq_true other, value, listed, ofFields.documents _ kept, same⟩

theorem names_nodup (ofFields : record.OfFields fields) :
    (((sizeField, toDatum record.size) :: record.extra).map Prod.fst).Nodup := by
  rw [List.map_cons, List.nodup_cons]
  constructor
  · intro repeated
    obtain ⟨field, member, same⟩ := List.mem_map.mp repeated
    exact (ofFields.exists_of_mem_extra member).1 same
  · rw [ofFields.extra_eq]
    exact Datum.names_canonicalFields_nodup _

theorem isPlain_extra (ofFields : record.OfFields fields)
    (textual : (Datum.record fields).isTextual = true) (integral : record.isIntegral = true)
    {field : String × Datum} (member : field ∈ record.extra) : field.2.isPlain = true := by
  rw [Datum.isTextual_record_iff] at textual
  have without := Datum.isIntegral_record_iff.mp integral field member
  obtain ⟨_, value, listed, document, same⟩ := ofFields.exists_of_mem_extra member
  rw [same] at without ⊢
  exact Datum.isPlain_canonical (textual _ listed) document without

theorem isPlain_toDatum (ofFields : record.OfFields fields)
    (textual : (Datum.record fields).isTextual = true) (integral : record.isIntegral = true) :
    (toDatum record).isPlain = true := by
  apply Datum.isPlain_record_iff.mpr
  refine ⟨ofFields.names_nodup, List.forall_mem_cons.mpr ⟨?_, ?_⟩⟩
  · exact PlainSerial.isPlain_toDatum (fitWords_nat_iff.mpr ofFields.word)
  · exact fun field member => ofFields.isPlain_extra textual integral member

theorem depth_toDatum_le (ofFields : record.OfFields fields) {bound : Nat}
    (shallow : (Datum.record fields).depth ≤ bound + 1) : (toDatum record).depth ≤ bound + 1 := by
  rw [Datum.depth, Nat.add_le_add_iff_right, Datum.depthFields_le_iff] at shallow
  apply Datum.depth_record_le
  refine List.forall_mem_cons.mpr ⟨Nat.zero_le bound, ?_⟩
  intro field member
  obtain ⟨_, value, listed, _, same⟩ := ofFields.exists_of_mem_extra member
  rw [same]
  exact (Datum.depth_canonical_le value).trans (shallow _ listed)

theorem written (ofFields : record.OfFields fields)
    (textual : (Datum.record fields).isTextual = true) (integral : record.isIntegral = true) :
    record.OfFields ((sizeField, toDatum record.size) :: record.extra) := by
  have other : ∀ field ∈ record.extra, field.1 ≠ sizeField :=
    fun field member => (ofFields.exists_of_mem_extra member).1
  have kept : others ((sizeField, toDatum record.size) :: record.extra) = record.extra := by
    rw [others, List.filter_cons_of_neg (by simp), List.filter_eq_self]
    exact fun field member => decide_eq_true (other field member)
  constructor
  · rw [sizes, List.filter_cons_of_pos (by simp), List.cons.injEq, List.filter_eq_nil_iff]
    exact ⟨rfl, fun field member same => other field member (of_decide_eq_true same)⟩
  · exact ofFields.word
  · rw [kept]
    intro field member
    exact Datum.isDocument_of_isPlain (ofFields.isPlain_extra textual integral member)
  · rw [kept, ofFields.extra_eq, Datum.canonicalFields_canonicalFields]

/-- Under every name a record has the canonical form of what the fields have. -/
theorem child?_toDatum (ofFields : record.OfFields fields) (step : Datum.Step) :
    (toDatum record).child? step = ((Datum.record fields).child? step).map Datum.canonical := by
  cases step with
  | item position => rfl
  | field name =>
      have distinct := Datum.lookup_eq_of_perm ofFields.names_nodup (List.reverse_perm _) name
      change List.lookup name (List.reverse _) = (fields.reverse.lookup name).map Datum.canonical
      rw [distinct, List.lookup_cons]
      by_cases size : name = sizeField
      · -- The size is written first, but it may have stood anywhere among the fields.
        subst size
        have single : sizes fields.reverse = [(sizeField, toDatum record.size)] := by
          rw [sizes, List.filter_reverse, ← sizes, ofFields.sizes_eq, List.reverse_singleton]
        rw [(sizes_eq_iff.mp single).2]
        simp [toDatum, Datum.canonical]
      · have apart : (name == sizeField) = false := beq_eq_false_iff_ne.mpr size
        have last := Datum.lookup_filter (p := fun name => name ≠ sizeField)
          (decide_eq_true size) fields.reverse
        rw [apart, ofFields.extra_eq, Datum.lookup_canonicalFields_last, others,
          ← List.filter_reverse, last]

theorem alike (ofFields : record.OfFields fields)
    (textual : (Datum.record fields).isTextual = true) :
    (toDatum record).Alike (.record fields) := by
  have canonical : (toDatum record).Alike (Datum.record fields).canonical := by
    refine Datum.alike_of_child? ?_ fun step => ?_
    · rfl
    · rw [ofFields.child?_toDatum, Datum.child?_canonical]
  exact canonical.trans (Datum.alike_canonical textual)

end OfFields

/-! ## Streams -/

variable {stream rest : Bytes}

theorem read?_eq_some (found : read? stream = some (record, rest)) :
    ∃ fields, Json.read? stream = some (.record fields, rest) ∧
      Json.Fits Json.maxDepth (.record fields) ∧ record.OfFields fields := by
  obtain ⟨⟨datum, after⟩, begins, read⟩ := Option.bind_eq_some_iff.mp found
  obtain ⟨value, denoted, same⟩ := Option.bind_eq_some_iff.mp read
  cases same
  have fits := Json.read?_finds begins
  cases datum with
  | record fields => exact ⟨fields, begins, fits, (ofDatum?_record_iff fits.2).mp denoted⟩
  | table _ => cases fits.2
  | null | bool _ | int _ | real _ | text _ | bytes _ | list _ | foreign | unreadable =>
      cases denoted

/-- The document of a record is read as that record, whatever bytes follow. -/
theorem read?_writeDocument (found : read? stream = some (record, rest))
    (integral : record.isIntegral = true) (following : Bytes) :
    read? (writeDocument record ++ following) = some (record, following) := by
  obtain ⟨fields, _, ⟨shallow, textual⟩, ofFields⟩ := read?_eq_some found
  have plain := ofFields.isPlain_toDatum textual integral
  have begins : Json.read? (writeDocument record ++ following) =
      some (toDatum record, following) :=
    Json.read?_compact_record plain (ofFields.depth_toDatum_le shallow) following
  have denoted : ofDatum? (toDatum record) = some record :=
    (ofDatum?_record_iff (Datum.isTextual_of_isPlain plain)).mpr
      (ofFields.written textual integral)
  exact Option.bind_eq_some_iff.mpr
    ⟨_, begins, Option.bind_eq_some_iff.mpr ⟨record, denoted, rfl⟩⟩

/-- The document of a record says what the stream says that it was read from. -/
theorem exists_document?_alike (found : read? stream = some (record, rest))
    (integral : record.isIntegral = true) :
    ∃ datum written, Json.read? stream = some (datum, rest) ∧
      Json.document? (writeDocument record) = some written ∧ written.Alike datum := by
  obtain ⟨fields, begins, ⟨shallow, textual⟩, ofFields⟩ := read?_eq_some found
  have plain := ofFields.isPlain_toDatum textual integral
  exact ⟨.record fields, toDatum record, begins,
    Json.document?_compact plain (ofFields.depth_toDatum_le shallow), ofFields.alike textual⟩

end PointRecord

end SurveyCube
