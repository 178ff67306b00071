import SurveyCube.Proofs.Room

/-!
# Whom a failed run is blamed on

A scheduler has a positive task size, so what goes wrong with a document is
wrong with the document: the failures are client faults or a number of blocks
that does not come out.

Two kinds of failure come before all others.  A version that is a number but not
the supported one is reported whatever else the document holds; a function that
nobody plans is reported next.  Neither kind comes up in any other way, because
the validation of the manifest finds the version that the first look has found.
-/

namespace SurveyCube

/-! ## One version, read twice -/

namespace Datum

variable {fields : List (String × Datum)} {names : List String} {given : Fields}

theorem fields?_record_eq_some (read : (record fields).fields? names = some given) :
    given = Fields.ofRecord fields := by
  simp only [fields?, namedFields?, Option.bind_some, Fields.ofNamed?] at read
  split at read
  · cases read
    funext name
    exact lookup_spelled fields name
  · cases read

theorem flatFields?_record_eq_some (read : (record fields).flatFields? names = some given) :
    given = Fields.ofRecord fields :=
  fields?_record_eq_some read

theorem lookup_heldFields (fields : List (String × Datum)) (name : String) :
    (heldFields fields).lookup name = (fields.lookup name).map held := by
  induction fields with
  | nil => rfl
  | cons field rest ih =>
      obtain ⟨other, value⟩ := field
      rw [heldFields, List.lookup_cons, List.lookup_cons, ih]
      split <;> rfl

end Datum

theorem Manifest.formatVersion_of_record {fields : List (String × Datum)} {manifest : Manifest}
    {version : Int} (read : ofDatum? (.record fields) = some manifest)
    (stored : fields.lookup "format-version" = some (.int version)) :
    (manifest.formatVersion : Int) = version := by
  obtain ⟨given, named, read⟩ := Option.bind_eq_some_iff.mp read
  obtain rfl := Datum.fields?_record_eq_some named
  obtain ⟨number, numbered, read⟩ := Option.bind_eq_some_iff.mp read
  have kept : manifest.formatVersion = number := by
    simp only [Option.bind_eq_bind, Option.bind_eq_some_iff, Option.pure_def,
      Option.some.injEq] at read
    obtain ⟨_, _, _, _, _, _, _, _, rfl⟩ := read
    rfl
  rw [Datum.Fields.required_ofRecord, stored] at numbered
  cases version with
  | ofNat n =>
      have same : n = number := by
        simp only [Option.bind_some, ofDatum?] at numbered
        split at numbered
        · exact Option.some.inj numbered
        · cases numbered
      rw [kept, ← same]
      rfl
  | negSucc n => cases numbered

theorem QueryBase.manifest_of_ofFields? {fields : Datum.Fields} {base : QueryBase}
    (read : QueryBase.ofFields? fields = some base) :
    fields.required "manifest" = some base.manifest := by
  simp only [QueryBase.ofFields?, Option.bind_eq_bind, Option.bind_eq_some_iff, Option.pure_def,
    Option.some.injEq] at read
  obtain ⟨_, _, _, _, _, _, _, _, _, found, _, _, rfl⟩ := read
  exact found

/-- A query that a record gives has the version that the record shows. -/
theorem formatVersion_of_readFlattened
    {α : Type} {names : List String} {next : Datum.Fields → QueryBase → Option α} {datum : Datum}
    {query : α} {version : Int} (read : datum.readFlattened names next = some query)
    (shown : datum.version? = some (.int version)) :
    ∃ fields base, next fields base = some query ∧
      (base.manifest.formatVersion : Int) = version := by
  obtain ⟨manifest, held, inner⟩ := Option.bind_eq_some_iff.mp shown
  cases datum with
  | record all =>
      obtain ⟨_, _, read⟩ := Option.bind_eq_some_iff.mp read
      obtain ⟨fields, named, read⟩ := Option.bind_eq_some_iff.mp read
      obtain ⟨base, based, read⟩ := Option.bind_eq_some_iff.mp read
      obtain rfl := Datum.flatFields?_record_eq_some named
      refine ⟨_, base, read, ?_⟩
      have found := QueryBase.manifest_of_ofFields? based
      cases manifest with
      | record entries =>
          have put : (Datum.Fields.ofRecord all).held "manifest" =
              some (.record (Datum.heldFields entries)) := by
            change (all.lookup "manifest").map Datum.held = _
            rw [show all.lookup "manifest" = some (.record entries) from held]
            rfl
          rw [Datum.Fields.required, put] at found
          apply Manifest.formatVersion_of_record found
          rw [Datum.lookup_heldFields,
            show entries.lookup "format-version" = some (.int version) from inner]
          rfl
      | _ => cases inner
  | _ => cases held

theorem SliceQuery.formatVersion_eq
    {datum : Datum} {query : SliceQuery} {version : Int} (read : ofDatum? datum = some query)
    (shown : datum.version? = some (.int version)) :
    (query.base.manifest.formatVersion : Int) = version := by
  rw [SliceQuery.ofDatum?_eq] at read
  obtain ⟨fields, base, built, same⟩ := formatVersion_of_readFlattened read shown
  simp only [Option.bind_eq_bind, Option.bind_eq_some_iff, Option.pure_def,
    Option.some.injEq] at built
  obtain ⟨_, _, _, _, rfl⟩ := built
  exact same

theorem CurtainQuery.formatVersion_eq
    {datum : Datum} {query : CurtainQuery} {version : Int} (read : ofDatum? datum = some query)
    (shown : datum.version? = some (.int version)) :
    (query.base.manifest.formatVersion : Int) = version := by
  rw [CurtainQuery.ofDatum?_eq] at read
  obtain ⟨fields, base, built, same⟩ := formatVersion_of_readFlattened read shown
  simp only [Option.bind_eq_bind, Option.bind_eq_some_iff, Option.pure_def,
    Option.some.injEq] at built
  obtain ⟨_, _, _, _, rfl⟩ := built
  exact same

/-! ## Faults of queries -/

theorem exists_of_firstUnmet {fault : Fault} {needs : List Need}
    (first : FirstUnmet fault needs) : ∃ need ∈ needs, ¬ need.met ∧ need.blames fault := by
  induction needs with
  | nil => exact absurd first id
  | cons need rest ih =>
      rcases first with ⟨unmet, blamed⟩ | ⟨_, later⟩
      · exact ⟨need, List.mem_cons_self, unmet, blamed⟩
      · obtain ⟨other, member, found⟩ := ih later
        exact ⟨other, List.mem_cons_of_mem need member, found⟩

/-- What a query is refused for if its manifest is of the supported version and
its task size is positive. -/
def refusalKinds : List FaultKind := [.invalidDocument, .outOfRange, .overflow]

theorem kind_of_scheduleQuery_governed
    {α τ ι : Type} [Schedulable α τ] [Divisible τ ι] [Serial τ] {query : α} {plan : List Need}
    {taskSize : Nat} {fault : Fault}
    (governs : Governs ([(Schedulable.base query).manifest.validNeed] ++
      (plan ++ divisionNeeds query taskSize)) (scheduleQuery query taskSize))
    (planned : ∀ need ∈ plan, need.blames fault → fault.kind ∈ refusalKinds)
    (positive : 1 ≤ taskSize) (supported : (Schedulable.base query).manifest.formatVersion = 1)
    (fails : scheduleQuery query taskSize = .error fault) : fault.kind ∈ refusalKinds := by
  obtain ⟨need, member, unmet, blamed⟩ :=
    exists_of_firstUnmet (governs.blames_first fault fails)
  rw [List.mem_append, List.mem_append, List.mem_singleton] at member
  rcases member with rfl | inside | dividing
  · -- The manifest is invalid, but not for its version.
    rcases Manifest.kind_of_validate_eq_error blamed.1 with ⟨other, _⟩ | ⟨_, invalid⟩
    · exact absurd supported other
    · rw [invalid]
      decide
  · exact planned need inside blamed
  · rw [divisionNeeds, List.mem_cons, List.mem_singleton] at dividing
    rcases dividing with rfl | rfl
    · exact absurd positive unmet
    · have overflows : fault.kind = .overflow := blamed
      rw [overflows]
      decide

theorem SliceQuery.kind_of_scheduleQuery_eq_error
    {query : SliceQuery} {taskSize : Nat} {fault : Fault} (positive : 1 ≤ taskSize)
    (supported : query.base.manifest.formatVersion = 1)
    (fails : scheduleQuery query taskSize = .error fault) : fault.kind ∈ refusalKinds := by
  have governs := scheduleQuery_governed query query.planNeeds
    (SliceQuery.tasks_governed (Schedulable.normalized query))
    (SliceQuery.exists_header (Schedulable.normalized query)) taskSize
  refine kind_of_scheduleQuery_governed governs ?_ positive supported fails
  intro need member blamed
  rw [planNeeds, List.mem_cons, List.mem_singleton] at member
  rcases member with rfl | rfl
  · rw [show fault.kind = .outOfRange from blamed]
    decide
  · rw [show fault.kind = .outOfRange from blamed]
    decide

theorem CurtainQuery.kind_of_scheduleQuery_eq_error
    {query : CurtainQuery} {taskSize : Nat} {fault : Fault} (positive : 1 ≤ taskSize)
    (supported : query.base.manifest.formatVersion = 1)
    (fails : scheduleQuery query taskSize = .error fault) : fault.kind ∈ refusalKinds := by
  have governs := scheduleQuery_governed query query.planNeeds
    (CurtainQuery.tasks_governed (Schedulable.normalized query))
    (CurtainQuery.exists_header (Schedulable.normalized query)) taskSize
  refine kind_of_scheduleQuery_governed governs ?_ positive supported fails
  intro need member blamed
  rw [planNeeds, List.mem_cons, List.mem_singleton] at member
  rcases member with rfl | rfl
  · rw [show fault.kind = .invalidDocument from blamed]
    decide
  · rw [show fault.kind = .outOfRange from blamed]
    decide

theorem kind_of_scheduleDatum_eq_error
    {α τ ι : Type} [Serial α] [Schedulable α τ] [Divisible τ ι] [Serial τ] {datum : Datum}
    {taskSize : Nat} {fault : Fault}
    (refused : ∀ query : α, ofDatum? datum = some query →
      scheduleQuery query taskSize = .error fault → fault.kind ∈ refusalKinds)
    (fails : scheduleDatum α datum taskSize = .error fault) : fault.kind ∈ refusalKinds := by
  unfold scheduleDatum at fails
  cases read : (ofDatum? datum : Option α) with
  | none =>
      rw [read] at fails
      cases fails
      decide
  | some query =>
      rw [read] at fails
      exact refused query read fails

/-- A datum of the supported version is refused neither for its version nor for
its function. -/
theorem kind_of_planBy_eq_error
    {function : Function} {datum : Datum} {taskSize : Nat} {fault : Fault}
    (positive : 1 ≤ taskSize) (version : datum.version? = some (.int 1))
    (fails : planBy function datum taskSize = .error fault) : fault.kind ∈ refusalKinds := by
  cases function with
  | slice =>
      refine kind_of_scheduleDatum_eq_error ?_ fails
      intro query read refused
      have supported := Int.ofNat_inj.mp (SliceQuery.formatVersion_eq read version)
      exact SliceQuery.kind_of_scheduleQuery_eq_error positive supported refused
  | curtain =>
      refine kind_of_scheduleDatum_eq_error ?_ fails
      intro query read refused
      have supported := Int.ofNat_inj.mp (CurtainQuery.formatVersion_eq read version)
      exact CurtainQuery.kind_of_scheduleQuery_eq_error positive supported refused

/-! ## Faults of documents -/

/-- The datum is a number, with or without a fraction. -/
def Datum.IsNumber : Datum → Prop
  | .int _ | .real _ => True
  | _ => False

/-- The document can be read, and its manifest is in a version that is a number
but not the supported one. -/
def HasOtherVersion (document : Bytes) : Prop :=
  ∃ datum version, readWhole document = .ok datum ∧ datum.version? = some version ∧
    version.IsNumber ∧ version ≠ .int 1

/-- The document is of the supported version, and asks for a function that
nobody plans. -/
def NamesOtherFunction (document : Bytes) : Prop :=
  ∃ datum name, readWhole document = .ok datum ∧ datum.version? = some (.int 1) ∧
    datum.get? "function" = some (.text name) ∧ name ≠ "slice" ∧ name ≠ "curtain"

theorem checkFormatVersion_eq_ok {datum : Datum} :
    checkFormatVersion datum = .ok () ↔ datum.version? = some (.int 1) := by
  unfold checkFormatVersion Datum.version?
  split
  · rename_i missing
    simp [missing]
  · rename_i version shown
    rw [shown]
    by_cases supported : version = Fault.formatVersion
    · simp [supported, Fault.formatVersion]
    · rw [if_neg supported]
      simp only [reduceCtorEq, Option.some.injEq, Datum.int.injEq, false_iff]
      exact supported
  · rename_i value shown
    simp [shown]
  · rename_i other notInt _ shown
    rw [shown]
    simp only [reduceCtorEq, Option.some.injEq, false_iff]
    exact notInt 1

theorem checkFormatVersion_eq_error {datum : Datum} {fault : Fault}
    (fails : checkFormatVersion datum = .error fault) :
    fault.kind = .invalidDocument ∨
      fault.kind = .unsupportedFormatVersion 1 ∧
        ∃ version, datum.version? = some version ∧ version.IsNumber ∧ version ≠ .int 1 := by
  unfold checkFormatVersion at fails
  split at fails
  · cases fails
    exact Or.inl rfl
  · rename_i version shown
    split at fails
    · cases fails
    · rename_i unsupported
      cases fails
      refine Or.inr ⟨rfl, .int version, shown, trivial, ?_⟩
      intro same
      exact unsupported (Datum.int.inj same)
  · rename_i value shown
    cases fails
    exact Or.inr ⟨rfl, .real value, shown, trivial, nofun⟩
  · cases fails
    exact Or.inl rfl

theorem checkFormatVersion_of_other {datum version : Datum}
    (shown : datum.version? = some version) (number : version.IsNumber)
    (other : version ≠ .int 1) :
    ∃ fault, checkFormatVersion datum = .error fault ∧
      fault.kind = .unsupportedFormatVersion 1 := by
  unfold checkFormatVersion
  rw [← Datum.version?, shown]
  cases version with
  | int value =>
      have unsupported : value ≠ Fault.formatVersion := fun same => other (congrArg _ same)
      simp only [if_neg unsupported]
      exact ⟨_, rfl, rfl⟩
  | real value => exact ⟨_, rfl, rfl⟩
  | _ => exact absurd number id

theorem Function.ofName_eq_error {name : String} {fault : Fault} :
    Function.ofName name = .error fault ↔
      (name ≠ "slice" ∧ name ≠ "curtain") ∧ fault = .unknownFunction name := by
  have known : Function.ofName? name = none ↔ name ≠ "slice" ∧ name ≠ "curtain" := by
    unfold Function.ofName?
    split <;> simp_all
  rw [← known, Function.ofName]
  cases Function.ofName? name <;> simp [eq_comm]

theorem Function.ofName_eq_ok {name : String} {function : Function} :
    Function.ofName name = .ok function ↔ name = function.name := by
  constructor
  · intro named
    unfold Function.ofName Function.ofName? at named
    split at named
    · rename_i found
      cases named
      split at found <;> cases found <;> rfl
    · cases named
  · rintro rfl
    rw [Function.ofName, Function.ofName?_name]

theorem requestedFunction_eq_error {datum : Datum} {fault : Fault}
    (fails : requestedFunction datum = .error fault) :
    fault.kind = .invalidDocument ∨
      fault.kind = .unknownFunction ∧
        ∃ name, datum.get? "function" = some (.text name) ∧ name ≠ "slice" ∧ name ≠ "curtain" := by
  unfold requestedFunction at fails
  split at fails
  · rename_i name asked
    obtain ⟨unknown, rfl⟩ := Function.ofName_eq_error.mp fails
    exact Or.inr ⟨rfl, name, asked, unknown⟩
  · cases fails
    exact Or.inl rfl

theorem requestedFunction_eq_ok {datum : Datum} {function : Function} :
    requestedFunction datum = .ok function ↔
      datum.get? "function" = some (.text function.name) := by
  unfold requestedFunction
  split
  · rename_i name asked
    rw [Function.ofName_eq_ok, asked, Option.some.injEq, Datum.text.injEq]
  · rename_i noText
    simp only [reduceCtorEq, false_iff]
    exact noText _

theorem kind_of_announced_eq_error {document : Bytes} {fault : Fault}
    (fails : announced document = .error fault) :
    fault.kind = .invalidDocument ∨
      (fault.kind = .unsupportedFormatVersion 1 ∧ HasOtherVersion document) ∨
      (fault.kind = .unknownFunction ∧ NamesOtherFunction document) := by
  unfold announced at fails
  rcases bind_eq_error.mp fails with unread | ⟨datum, whole, fails⟩
  · unfold readWhole at unread
    split at unread
    · split at unread
      · cases unread
      · cases unread
        exact Or.inl rfl
    · cases unread
      exact Or.inl rfl
  · rcases bind_eq_error.mp fails with gated | ⟨_, supported, fails⟩
    · rcases checkFormatVersion_eq_error gated with invalid | ⟨kind, version, shown⟩
      · exact Or.inl invalid
      · exact Or.inr (Or.inl ⟨kind, datum, version, whole, shown⟩)
    · have version := checkFormatVersion_eq_ok.mp supported
      rcases bind_eq_error.mp fails with unnamed | ⟨_, _, impossible⟩
      · rcases requestedFunction_eq_error unnamed with invalid | ⟨kind, name, asked⟩
        · exact Or.inl invalid
        · exact Or.inr (Or.inr ⟨kind, datum, name, whole, version, asked⟩)
      · cases impossible

theorem announced_of_otherVersion {document : Bytes} (other : HasOtherVersion document) :
    ∃ fault, announced document = .error fault ∧ fault.kind = .unsupportedFormatVersion 1 := by
  obtain ⟨datum, version, whole, shown, number, unsupported⟩ := other
  obtain ⟨fault, gated, kind⟩ := checkFormatVersion_of_other shown number unsupported
  exact ⟨fault, bind_eq_error.mpr (Or.inr ⟨datum, whole, bind_eq_error.mpr (Or.inl gated)⟩), kind⟩

theorem announced_of_otherFunction {document : Bytes} (other : NamesOtherFunction document) :
    ∃ fault, announced document = .error fault ∧ fault.kind = .unknownFunction := by
  obtain ⟨datum, name, whole, version, asked, unknown⟩ := other
  have unnamed : requestedFunction datum = .error (.unknownFunction name) := by
    rw [requestedFunction, asked]
    exact Function.ofName_eq_error.mpr ⟨unknown, rfl⟩
  refine ⟨.unknownFunction name, ?_, rfl⟩
  rw [announced, whole, ok_bind, checkFormatVersion_eq_ok.mpr version, ok_bind, unnamed]
  rfl

/-! ## Main results -/

theorem kind_of_schedule_eq_error {document : Bytes} {taskSize : Nat} {fault : Fault}
    (positive : 1 ≤ taskSize) (fails : schedule document taskSize = .error fault) :
    fault.kind ∈ refusalKinds ∨
      (fault.kind = .unsupportedFormatVersion 1 ∧ HasOtherVersion document) ∨
      (fault.kind = .unknownFunction ∧ NamesOtherFunction document) := by
  rw [schedule_eq_announced] at fails
  rcases bind_eq_error.mp fails with refused | ⟨⟨datum, function⟩, found, fails⟩
  · rcases kind_of_announced_eq_error refused with invalid | first
    · rw [invalid]
      exact Or.inl (by decide)
    · exact Or.inr first
  · have version := checkFormatVersion_eq_ok.mp (announced_eq_ok.mp found).2.1
    exact Or.inl (kind_of_planBy_eq_error positive version fails)

/-- The kinds that a document is refused for are those of its sender, or too many
blocks. -/
theorem client_or_overflow {fault : Fault}
    (kind : fault.kind ∈ refusalKinds ∨ fault.kind = .unsupportedFormatVersion 1 ∨
      fault.kind = .unknownFunction) :
    (fault.isClient = true ∨ fault.kind = .overflow) ∧
      fault.kind ∉ [.invalidArgument, .configuration, .serialization] := by
  rw [Fault.isClient]
  rcases kind with refused | unsupported | unknown
  · simp only [refusalKinds, List.mem_cons, List.not_mem_nil, or_false] at refused
    rcases refused with kind | kind | kind <;> rw [kind] <;> decide
  · rw [unsupported]
    decide
  · rw [unknown]
    decide

/-- Whatever a scheduler is given, it ends without an outcome exactly if the
document announces a query that asks for more room than there can be.  If it
refuses the document, then for a fault of the client or a number of blocks that
does not come out.  An unsupported version and an unknown function are reported
exactly if they are what the document shows first. -/
theorem scheduler_blames_document (scheduler : Scheduler) (document : Bytes) :
    ((∃ stop, scheduler.scheduleInRoom document = .error stop) ↔
      ∃ datum function, readWhole document = .ok datum ∧ datum.version? = some (.int 1) ∧
        datum.get? "function" = some (.text function.name) ∧ datum.Overreaches function) ∧
    (∀ fault, scheduler.scheduleInRoom document = .ok (.error fault) →
      (fault.isClient = true ∨ fault.kind = .overflow) ∧
        fault.kind ∉ [.invalidArgument, .configuration, .serialization]) ∧
    ((∃ fault, scheduler.scheduleInRoom document = .ok (.error fault) ∧
      fault.kind = .unsupportedFormatVersion 1) ↔ HasOtherVersion document) ∧
    ((∃ fault, scheduler.scheduleInRoom document = .ok (.error fault) ∧
      fault.kind = .unknownFunction) ↔ NamesOtherFunction document) := by
  have kinds (fault : Fault) (fails : scheduler.scheduleInRoom document = .ok (.error fault)) :=
    kind_of_schedule_eq_error scheduler.taskSize_pos (scheduleInRoom_eq_ok fails)
  have noVersion : FaultKind.unsupportedFormatVersion 1 ∉ refusalKinds := by decide
  have noFunction : FaultKind.unknownFunction ∉ refusalKinds := by decide
  refine ⟨?_, ?_, ?_, ?_⟩
  · have stops : (∃ stop, scheduler.scheduleInRoom document = .error stop) ↔ _ :=
      scheduleInRoom_stops
    simp only [announced_eq_ok, checkFormatVersion_eq_ok, requestedFunction_eq_ok,
      and_assoc] at stops
    exact stops
  · intro fault fails
    rcases kinds fault fails with refused | ⟨unsupported, _⟩ | ⟨unknown, _⟩
    · exact client_or_overflow (Or.inl refused)
    · exact client_or_overflow (Or.inr (Or.inl unsupported))
    · exact client_or_overflow (Or.inr (Or.inr unknown))
  · constructor
    · rintro ⟨fault, fails, kind⟩
      rcases kinds fault fails with refused | ⟨_, other⟩ | ⟨unknown, _⟩
      · exact absurd (kind ▸ refused) noVersion
      · exact other
      · cases kind.symm.trans unknown
    · intro other
      obtain ⟨fault, gated, kind⟩ := announced_of_otherVersion other
      exact ⟨fault, scheduleInRoom_eq_error gated, kind⟩
  · constructor
    · rintro ⟨fault, fails, kind⟩
      rcases kinds fault fails with refused | ⟨unsupported, _⟩ | ⟨_, other⟩
      · exact absurd (kind ▸ refused) noFunction
      · cases kind.symm.trans unsupported
      · exact other
    · intro other
      obtain ⟨fault, gated, kind⟩ := announced_of_otherFunction other
      exact ⟨fault, scheduleInRoom_eq_error gated, kind⟩

theorem Request.announced_toDocument {request : Request} (words : fitWords request = true)
    (supported : request.manifest.formatVersion = 1) :
    announced request.toDocument =
      .ok (request.datum.canonical, request.arguments.function) := by
  have parsed := Request.document?_toDocument words
  have readable := Datum.readable_of_isPlain (Request.isPlain_datum words)
  have announces := Request.announces words supported _ parsed readable
  exact announced_eq_ok.mpr ⟨readWhole_eq_ok parsed readable,
    checkFormatVersion_canonical announces, requestedFunction_canonical announces⟩

/-- A curtain under one trace. -/
def longCurtain : Request :=
  .curtain "p" longFragments [(0, 0)]

/-- A curtain under one trace can ask for more room than there can be. -/
theorem longCurtain_ends_without_outcome :
    Scheduler.scheduleInRoom {} longCurtain.toDocument =
      .error ⟨⟨720000000000000000, 16⟩⟩ := by
  have words : fitWords longCurtain = true := by decide
  have distinct := Datum.namesDistinct_of_isPlain (Request.isPlain_datum words)
  let query := CurtainQuery.mk longCurtain.base [0] [0]
  have read : ofDatum? longCurtain.datum = some query := by
    have reads : readDocument CurtainQuery longCurtain.toDocument = .ok query :=
      Request.readDocument_curtain rfl words
    rw [readDocument, Request.document?_toDocument words, Option.bind_some] at reads
    split at reads
    · rename_i other found
      rw [found, Except.ok.inj reads]
    · cases reads
  have validated : (Schedulable.base query).manifest.validate = .ok () := by decide
  rw [Scheduler.scheduleInRoom, scheduleInRoom, Request.announced_toDocument words rfl]
  change scheduleDatumInRoom CurtainQuery _ _ = _
  rw [scheduleDatumInRoom, ofDatum?_canonical distinct, read]
  change scheduleQueryInRoom query _ = _
  rw [scheduleQueryInRoom, validated]
  rfl

end SurveyCube
