import SurveyCube.Proofs.OrderBlind
import SurveyCube.Proofs.Request
import SurveyCube.Proofs.Schedule

/-!
# Documents that say what they ask for

A document is scheduled in two ways: as a query of a known shape, or by the
function that it names, after a look at the version of its manifest.  The two
agree on every document that announces the shape in its function and the
supported version in its manifest, whatever else it holds.

A request writes such a document.  If its manifest is in another version, then
the first look at the document and the validation of the query it holds refuse
it with the same words.
-/

namespace SurveyCube

/-! ## Looking into canonical data -/

namespace Datum

theorem namesDistinct_of_get? {datum value : Datum} {name : String}
    (distinct : datum.namesDistinct = true) (found : datum.get? name = some value) :
    value.namesDistinct = true := by
  cases datum with
  | record fields =>
      exact (namesDistinct_record_iff.mp distinct).2 (name, value) (mem_of_lookup found)
  | _ => cases found

theorem get?_canonical {datum : Datum} (distinct : datum.namesDistinct = true) (name : String) :
    datum.canonical.get? name = (datum.get? name).map canonical := by
  cases datum with
  | record fields => exact lookup_canonicalFields (namesDistinct_record_iff.mp distinct).1 name
  | real value =>
      rw [canonical]
      split <;> rfl
  | _ => rfl

/-- The version of the manifest that a query document holds. -/
def version? (datum : Datum) : Option Datum :=
  (datum.get? "manifest").bind fun manifest => manifest.get? "format-version"

theorem version?_canonical {datum : Datum} (distinct : datum.namesDistinct = true) :
    datum.canonical.version? = datum.version?.map canonical := by
  rw [version?, version?, get?_canonical distinct]
  cases found : datum.get? "manifest" with
  | none => rfl
  | some manifest => exact get?_canonical (namesDistinct_of_get? distinct found) "format-version"

/-- The datum is one of a query document: no record repeats a name, the
manifest is in the supported version, and the function is the given one. -/
structure Announces (datum : Datum) (function : Function) : Prop where
  namesDistinct : datum.namesDistinct = true
  version : datum.version? = some (.int 1)
  function : datum.get? "function" = some (.text function.name)

end Datum

/-- If the document can be read at all, then it announces the function. -/
def Announces (document : Bytes) (function : Function) : Prop :=
  ∀ datum, Json.document? document = some datum → datum.readable = true →
    datum.Announces function

/-! ## Planning by function -/

/-- The response to the query that a datum denotes, planned by a function. -/
def planBy (function : Function) (datum : Datum) (taskSize : Nat) : Except Fault TaskSet :=
  match function with
  | .slice => scheduleDatum SliceQuery datum taskSize
  | .curtain => scheduleDatum CurtainQuery datum taskSize

section Dispatch

variable {document : Bytes} {datum : Datum} {function : Function}

theorem readWhole_eq_ok (parsed : Json.document? document = some datum)
    (readable : datum.readable = true) : readWhole document = .ok datum.canonical := by
  rw [readWhole, parsed]
  exact if_pos readable

theorem requestedFunction_canonical (announced : datum.Announces function) :
    requestedFunction datum.canonical = .ok function := by
  rw [requestedFunction, Datum.get?_canonical announced.namesDistinct, announced.function]
  cases function <;> rfl

theorem checkFormatVersion_canonical (announced : datum.Announces function) :
    checkFormatVersion datum.canonical = .ok () := by
  have version : datum.canonical.version? = some (.int 1) := by
    rw [Datum.version?_canonical announced.namesDistinct, announced.version]
    rfl
  rw [Datum.version?] at version
  rw [checkFormatVersion, version]
  rfl

theorem schedule_eq_planBy (parsed : Json.document? document = some datum)
    (readable : datum.readable = true) (announced : datum.Announces function) (taskSize : Nat) :
    schedule document taskSize = planBy function datum.canonical taskSize := by
  rw [schedule, readWhole_eq_ok parsed readable, ok_bind, checkFormatVersion_canonical announced,
    ok_bind, requestedFunction_canonical announced, ok_bind]
  rfl

/-- What cannot be read is refused before anything else is looked at. -/
theorem schedule_eq_error
    (unread : ∀ datum, Json.document? document = some datum → datum.readable = false)
    (taskSize : Nat) : schedule document taskSize = .error .unreadableDocument := by
  rw [schedule, readWhole]
  cases parsed : Json.document? document with
  | none => rfl
  | some datum =>
      simp only [unread datum parsed]
      rfl

end Dispatch

section Shapes

variable {α τ ι : Type} [Serial α] [Schedulable α τ] [Divisible τ ι] [Serial τ]

variable (α) in
/-- The function plans queries of a shape, of which nothing unreadable is one. -/
structure Plans (function : Function) : Prop where
  plans : planBy function = scheduleDatum α
  strict {datum : Datum} : datum.readable = false → (ofDatum? datum : Option α) = none

variable {document : Bytes} {datum : Datum}

theorem scheduleAs_eq_scheduleDatum (parsed : Json.document? document = some datum)
    (taskSize : Nat) : scheduleAs α document taskSize = scheduleDatum α datum taskSize := by
  rw [scheduleAs, readDocument, parsed, Option.bind_some, scheduleDatum]
  cases (ofDatum? datum : Option α) <;> rfl

theorem scheduleDatum_canonical [OrderBlind α] (distinct : datum.namesDistinct = true)
    (taskSize : Nat) :
    scheduleDatum α datum.canonical taskSize = scheduleDatum α datum taskSize := by
  rw [scheduleDatum, scheduleDatum, ofDatum?_canonical distinct]

theorem schedule_eq_scheduleAs [OrderBlind α] {function : Function} (plans : Plans α function)
    (announces : Announces document function) (taskSize : Nat) :
    schedule document taskSize = scheduleAs α document taskSize := by
  cases parsed : Json.document? document with
  | none =>
      rw [schedule_eq_error (by simp [parsed]), scheduleAs, readDocument, parsed]
      rfl
  | some datum =>
      rw [scheduleAs_eq_scheduleDatum parsed]
      cases readable : datum.readable with
      | true =>
          have announced := announces datum parsed readable
          rw [schedule_eq_planBy parsed readable announced, plans.plans,
            scheduleDatum_canonical announced.namesDistinct]
      | false =>
          -- Both ways give up on the whole document, before the announcement matters.
          rw [schedule_eq_error (by simp [parsed, readable]), scheduleDatum, plans.strict readable]

end Shapes

theorem SliceQuery.plans : Plans SliceQuery .slice where
  plans := rfl
  strict unread := by
    rw [SliceQuery.ofDatum?_eq]
    exact Datum.readFlattened_of_unreadable unread

theorem CurtainQuery.plans : Plans CurtainQuery .curtain where
  plans := rfl
  strict unread := by
    rw [CurtainQuery.ofDatum?_eq]
    exact Datum.readFlattened_of_unreadable unread

/-! ## Requests -/

/-- A query whose manifest is in another version is refused by its validation. -/
theorem scheduleQuery_unsupported
    {α τ ι : Type} [Schedulable α τ] [Divisible τ ι] [Serial τ] {query : α}
    (unsupported : (Schedulable.base query).manifest.formatVersion ≠ 1) (taskSize : Nat) :
    scheduleQuery query taskSize = .error (.unsupportedFormatVersion
      (toString (Schedulable.base query).manifest.formatVersion)) := by
  have invalid : (Schedulable.base query).manifest.validate = .error (.unsupportedFormatVersion
      (toString (Schedulable.base query).manifest.formatVersion)) := if_pos unsupported
  rw [scheduleQuery, invalid]
  rfl

namespace Request

variable {request : Request}

theorem version?_datum (request : Request) :
    request.datum.version? = some (.int request.manifest.formatVersion) := by
  rfl

theorem function_datum (request : Request) :
    request.datum.get? "function" = some (.text request.arguments.function.name) := by
  cases asked : request.arguments <;>
    simp [datum, Datum.get?, asked, QueryBase.toFields, Arguments.toFields, List.lookup_cons,
      Arguments.function] <;> rfl

/-- A request for a manifest in the supported version announces its function. -/
theorem announces (words : fitWords request = true)
    (supported : request.manifest.formatVersion = 1) :
    Announces request.toDocument request.arguments.function := by
  intro datum parsed _
  rw [document?_toDocument words] at parsed
  cases parsed
  have distinct := Datum.namesDistinct_of_isPlain (isPlain_datum words)
  have version : request.datum.version? = some (.int 1) := by
    rw [version?_datum, supported]
    rfl
  exact ⟨distinct, version, request.function_datum⟩

/-- A request for a manifest in another version is refused before its function
is looked at, with the version as numerals show it. -/
theorem schedule_unsupported (words : fitWords request = true)
    (unsupported : request.manifest.formatVersion ≠ 1) (taskSize : Nat) :
    schedule request.toDocument taskSize = .error (.unsupportedFormatVersion
      (toString request.manifest.formatVersion)) := by
  have plain := isPlain_datum words
  have version : request.datum.canonical.version? =
      some (.int request.manifest.formatVersion) := by
    rw [Datum.version?_canonical (Datum.namesDistinct_of_isPlain plain), version?_datum]
    rfl
  have shown : Text.ofBytes (Decimal.ofInt request.manifest.formatVersion) =
      toString request.manifest.formatVersion := by
    change Text.ofBytes (Decimal.ofNat request.manifest.formatVersion) = _
    rw [← Decimal.bytes_toString, Text.ofBytes_bytes]
  have differs : (request.manifest.formatVersion : Int) ≠ (Fault.formatVersion : Nat) :=
    fun same => unsupported (Int.ofNat_inj.mp same)
  rw [Datum.version?] at version
  rw [schedule, readWhole_eq_ok (document?_toDocument words) (Datum.readable_of_isPlain plain),
    ok_bind, checkFormatVersion, version]
  simp only [if_neg differs, shown]
  rfl

end Request

/-- The document holds the query, and is answered like the query itself. -/
structure Carries {α τ ι : Type} [Serial α] [Schedulable α τ] [Divisible τ ι] [Serial τ]
    (document : Bytes) (query : α) : Prop where
  reads : readDocument α document = .ok query
  answers (taskSize : Nat) : schedule document taskSize = scheduleQuery query taskSize

namespace Request

variable {request : Request}

theorem carries
    {α τ ι : Type} [Serial α] [OrderBlind α] [Schedulable α τ] [Divisible τ ι] [Serial τ]
    {query : α} (words : fitWords request = true) (plans : Plans α request.arguments.function)
    (reads : readDocument α request.toDocument = .ok query)
    (same : (Schedulable.base query).manifest = request.manifest) :
    Carries request.toDocument query := by
  refine ⟨reads, ?_⟩
  intro taskSize
  by_cases supported : request.manifest.formatVersion = 1
  · rw [schedule_eq_scheduleAs plans (announces words supported), scheduleAs, reads, ok_bind]
  · -- One way looks at the version in the document, the other one at the manifest.
    have unsupported := supported
    rw [← same] at unsupported
    rw [schedule_unsupported words supported, scheduleQuery_unsupported unsupported, same]

end Request

/-! ## Main results -/

/-- A document that announces a shape has the response of a query of that shape,
or is refused with the same fault. -/
theorem schedule_agrees_with_shape :
    (∀ (document : Bytes) (taskSize : Nat), Announces document .slice →
      schedule document taskSize = scheduleAs SliceQuery document taskSize) ∧
    (∀ (document : Bytes) (taskSize : Nat), Announces document .curtain →
      schedule document taskSize = scheduleAs CurtainQuery document taskSize) := by
  constructor
  · intro document taskSize announces
    exact schedule_eq_scheduleAs SliceQuery.plans announces taskSize
  · intro document taskSize announces
    exact schedule_eq_scheduleAs CurtainQuery.plans announces taskSize

/-- The requests of the small survey announce their functions. -/
theorem small_documents_agree_with_shape :
    schedule (Request.slice "p" smallSurvey 2 1).toDocument 3 =
        scheduleAs SliceQuery (Request.slice "p" smallSurvey 2 1).toDocument 3 ∧
      schedule (Request.curtain "p" smallSurvey [(2, 1), (0, 0), (2, 0)]).toDocument 3 =
        scheduleAs CurtainQuery
          (Request.curtain "p" smallSurvey [(2, 1), (0, 0), (2, 0)]).toDocument 3 := by
  constructor
  · exact schedule_agrees_with_shape.1 _ 3 (Request.announces (by decide) rfl)
  · exact schedule_agrees_with_shape.2 _ 3 (Request.announces (by decide) rfl)

/-- A request carries the query with its fields, whatever the version of its
manifest is. -/
theorem requests_carry_queries
    (pid token guid storageEndpoint : String) (manifest : Manifest) (attributes : List String)
    (words : fitWords manifest = true) :
    (∀ dim idx : Nat, fitWords dim = true → fitWords idx = true →
      Carries
        { Request.slice pid manifest dim idx with
          token, guid, storageEndpoint, attributes }.toDocument
        (SliceQuery.mk { pid, token, guid, storageEndpoint, manifest, attributes } dim idx)) ∧
    (∀ pairs : List (Nat × Nat), fitWords pairs = true →
      Carries
        { Request.curtain pid manifest pairs with
          token, guid, storageEndpoint, attributes }.toDocument
        (CurtainQuery.mk { pid, token, guid, storageEndpoint, manifest, attributes }
          (pairs.map Prod.fst) (pairs.map Prod.snd))) := by
  constructor
  · intro dim idx first second
    have arguments : fitWords (Arguments.slice dim idx) = true :=
      Arguments.fitWords_slice_iff.mpr ⟨first, second⟩
    have all : fitWords { Request.slice pid manifest dim idx with
        token, guid, storageEndpoint, attributes } = true :=
      Request.fitWords_iff.mpr ⟨words, arguments⟩
    exact Request.carries all SliceQuery.plans (Request.readDocument_slice rfl all) rfl
  · intro pairs fits
    have arguments : fitWords (Arguments.curtain (pairs.map Prod.fst) (pairs.map Prod.snd)) =
        true := Arguments.fitWords_unzip fits
    have all : fitWords { Request.curtain pid manifest pairs with
        token, guid, storageEndpoint, attributes } = true :=
      Request.fitWords_iff.mpr ⟨words, arguments⟩
    exact Request.carries all CurtainQuery.plans (Request.readDocument_curtain rfl all) rfl

/-- The small slice and the small curtain are carried by their requests. -/
theorem small_requests_carry_queries :
    Carries { Request.slice "p" smallSurvey 2 1 with guid := "g", attributes := ["cdp"] }.toDocument
        smallSlice ∧
      Carries { Request.curtain "p" smallSurvey [(2, 1), (0, 0), (2, 0)] with
        guid := "g", attributes := ["cdp"] }.toDocument smallCurtain := by
  have carried := requests_carry_queries "p" "" "g" "" smallSurvey ["cdp"] (by decide)
  exact ⟨carried.1 2 1 (by decide) (by decide),
    carried.2 [(2, 1), (0, 0), (2, 0)] (by decide)⟩

end SurveyCube
