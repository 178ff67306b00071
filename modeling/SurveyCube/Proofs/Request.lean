import SurveyCube.Proofs.Json.Document
import SurveyCube.Proofs.Plain
import SurveyCube.Proofs.Query
import SurveyCube.Request

/-!
# Requests are read back

The document of a request holds one plain record, the shared fields of all
queries followed by the function and its arguments.  Read as a query of the
shape that it asks for, it gives back the fields of the request.
-/

namespace SurveyCube

instance : Words Arguments where
  fitWords
    | .slice dim idx => fitWords dim && fitWords idx
    | .curtain dim0s dim1s => fitWords dim0s && fitWords dim1s

instance : Words Request where
  fitWords request := fitWords request.manifest && fitWords request.arguments

namespace Arguments

theorem fitWords_slice_iff {dim idx : Nat} :
    fitWords (slice dim idx) = true ↔ fitWords dim = true ∧ fitWords idx = true := by
  change (fitWords dim && fitWords idx) = true ↔ _
  rw [Bool.and_eq_true]

theorem fitWords_curtain_iff {dim0s dim1s : List Nat} :
    fitWords (curtain dim0s dim1s) = true ↔
      fitWords dim0s = true ∧ fitWords dim1s = true := by
  change (fitWords dim0s && fitWords dim1s) = true ↔ _
  rw [Bool.and_eq_true]

theorem fitWords_unzip {pairs : List (Nat × Nat)} (words : fitWords pairs = true) :
    fitWords (curtain (pairs.map Prod.fst) (pairs.map Prod.snd)) = true := by
  rw [fitWords_list_iff] at words
  rw [fitWords_curtain_iff, fitWords_list_iff, fitWords_list_iff, List.forall_mem_map,
    List.forall_mem_map]
  constructor
  · exact fun pair member => fitWords_nat_iff.mpr (fitWords_pair_iff.mp (words pair member)).1
  · exact fun pair member => fitWords_nat_iff.mpr (fitWords_pair_iff.mp (words pair member)).2

/-- The function that the arguments are for. -/
def function : Arguments → Function
  | slice _ _ => .slice
  | curtain _ _ => .curtain

end Arguments

namespace Request

variable {request : Request}

theorem fitWords_iff :
    fitWords request = true ↔
      fitWords request.manifest = true ∧ fitWords request.arguments = true := by
  change (fitWords request.manifest && fitWords request.arguments) = true ↔ _
  rw [Bool.and_eq_true]

/-! ## The document -/

/-- The datum that the document of a request holds. -/
def datum (request : Request) : Datum :=
  .record (request.base.toFields ++ request.arguments.toFields)

theorem names_nodup (request : Request) :
    ((request.base.toFields ++ request.arguments.toFields).map Prod.fst).Nodup := by
  cases request.arguments <;> simp [QueryBase.toFields, Arguments.toFields]

theorem isPlain_datum (words : fitWords request = true) : request.datum.isPlain = true := by
  obtain ⟨manifest, arguments⟩ := fitWords_iff.mp words
  apply Datum.isPlain_record request.names_nodup
  rw [List.forall_mem_append]
  constructor
  · simp [QueryBase.toFields, isPlain_toDatum, base, manifest]
  · cases asked : request.arguments with
    | slice dim idx =>
        rw [asked, Arguments.fitWords_slice_iff] at arguments
        simp [Arguments.toFields, isPlain_toDatum, arguments]
    | curtain dim0s dim1s =>
        rw [asked, Arguments.fitWords_curtain_iff] at arguments
        simp [Arguments.toFields, isPlain_toDatum, arguments]

theorem depth_datum_le (request : Request) : request.datum.depth ≤ 6 := by
  apply Datum.depth_record_le
  rw [List.forall_mem_append]
  constructor
  · simp (disch := decide) [QueryBase.toFields, LawfulSerial.depth_toDatum_le_of]
  · cases request.arguments <;>
      simp (disch := decide) [Arguments.toFields, LawfulSerial.depth_toDatum_le_of]

theorem isDocument_datum (request : Request) :
    ∀ field ∈ request.base.toFields ++ request.arguments.toFields,
      field.2.isDocument = true := by
  rw [List.forall_mem_append]
  constructor
  · simp [QueryBase.toFields, isDocument_toDatum]
  · cases request.arguments <;> simp [Arguments.toFields, isDocument_toDatum]

theorem document?_toDocument (words : fitWords request = true) :
    Json.document? request.toDocument = some request.datum :=
  Json.document?_compact (isPlain_datum words)
    (Nat.le_trans request.depth_datum_le (by decide))

/-! ## Reading the query -/

/-- The fields of the document by their names. -/
def fields (request : Request) : Datum.Fields :=
  Datum.Fields.ofRecord (request.base.toFields ++ request.arguments.toFields)

theorem held_fields (request : Request) : request.fields.held = request.fields := by
  funext name
  cases found : request.fields name with
  | none => simp [Datum.Fields.held, found]
  | some value =>
      have plain : value.isDocument = true :=
        request.isDocument_datum (name, value) (Datum.mem_of_lookup found)
      simp [Datum.Fields.held, found, Datum.held_eq_self value plain]

theorem ofFields?_fields (words : fitWords request = true) :
    QueryBase.ofFields? request.fields = some request.base := by
  have manifest := (fitWords_iff.mp words).1
  simp [QueryBase.ofFields?, fields, Datum.Fields.required_ofRecord,
    Datum.Fields.orElse_ofRecord, QueryBase.toFields, List.lookup_cons, ofDatum?_toDatum, base,
    manifest]

theorem readFlattened_datum
    {α : Type} (words : fitWords request = true) (names : List String)
    (next : Datum.Fields → QueryBase → Option α) :
    request.datum.readFlattened names next = next request.fields request.base := by
  rw [Datum.readFlattened, Datum.readable_of_isPlain (isPlain_datum words), datum,
    Datum.flatFields?_record names request.names_nodup]
  change (QueryBase.ofFields? request.fields.held >>= next request.fields) = _
  rw [held_fields, ofFields?_fields words]
  rfl

theorem readDocument_slice {dim idx : Nat} (asked : request.arguments = .slice dim idx)
    (words : fitWords request = true) :
    readDocument SliceQuery request.toDocument = .ok ⟨request.base, dim, idx⟩ := by
  have arguments := (fitWords_iff.mp words).2
  rw [asked, Arguments.fitWords_slice_iff] at arguments
  have read : (ofDatum? request.datum : Option SliceQuery) = some ⟨request.base, dim, idx⟩ := by
    rw [SliceQuery.ofDatum?_eq, readFlattened_datum words]
    simp [Datum.Fields.required_ofRecord, fields, asked, QueryBase.toFields, Arguments.toFields,
      List.lookup_cons, ofDatum?_toDatum, arguments]
  rw [readDocument, document?_toDocument words, Option.bind_some, read]

theorem readDocument_curtain {dim0s dim1s : List Nat}
    (asked : request.arguments = .curtain dim0s dim1s) (words : fitWords request = true) :
    readDocument CurtainQuery request.toDocument = .ok ⟨request.base, dim0s, dim1s⟩ := by
  have arguments := (fitWords_iff.mp words).2
  rw [asked, Arguments.fitWords_curtain_iff] at arguments
  have read : (ofDatum? request.datum : Option CurtainQuery) =
      some ⟨request.base, dim0s, dim1s⟩ := by
    rw [CurtainQuery.ofDatum?_eq, readFlattened_datum words]
    simp [Datum.Fields.required_ofRecord, fields, asked, QueryBase.toFields, Arguments.toFields,
      List.lookup_cons, ofDatum?_toDatum, arguments]
  rw [readDocument, document?_toDocument words, Option.bind_some, read]

end Request

end SurveyCube
