import SurveyCube.Config
import SurveyCube.Envelope
import SurveyCube.Plan.Curtain

/-!
# Scheduling

Scheduling turns a query into a response: the tasks of the query are built and
divided into units of work, and a header that describes the output goes in
front of them.

* `scheduleQuery` schedules a query of any shape.
* `scheduleAs` reads the document of a query whose shape is known.
* `schedule` finds the shape in the document.  It looks at the version of the
  manifest format and at the function before anything else, so that these two
  are reported whatever else is wrong.
-/

namespace SurveyCube

class Schedulable (α : Type) (τ : outParam Type) where
  base : α → QueryBase
  /-- The same query with its attribute names normalized. -/
  normalized : α → α
  /-- The tasks of a query, in order. -/
  tasks : α → Except Fault (List τ)
  /-- The header of a response with so many task results. -/
  header : α → Nat → Except Fault ProcessHeader

instance : Schedulable SliceQuery SliceTask where
  base := SliceQuery.base
  normalized query := { query with base := query.base.normalized }
  tasks := SliceQuery.tasks
  header := SliceQuery.header

instance : Schedulable CurtainQuery CurtainTask where
  base := CurtainQuery.base
  normalized query := { query with base := query.base.normalized }
  tasks := CurtainQuery.tasks
  header := CurtainQuery.header

section Typed

variable {α τ ι : Type} [Schedulable α τ] [Divisible τ ι] [Serial τ]

def scheduleQuery (query : α) (taskSize : Nat) : Except Fault TaskSet := do
  (Schedulable.base query).manifest.validate
  let query := Schedulable.normalized query
  let tasks ← Schedulable.tasks query
  let set ← partition tasks taskSize
  let header ← Schedulable.header query set.count
  return set.setEnvelope (← Envelope.pack header)

end Typed

def scheduleAs (α : Type) {τ ι : Type} [Serial α] [Schedulable α τ] [Divisible τ ι] [Serial τ]
    (document : Bytes) (taskSize : Nat) : Except Fault TaskSet := do
  scheduleQuery (← readDocument α document) taskSize

/-- The whole of a document.  Of fields with equal names the last one counts. -/
def readWhole (document : Bytes) : Except Fault Datum :=
  match Json.document? document with
  | some datum => if datum.readable then .ok datum.canonical else .error .unreadableDocument
  | none => .error .unreadableDocument

/-- Check that a query document has a manifest in the version of the format
that this library reads. -/
def checkFormatVersion (datum : Datum) : Except Fault Unit :=
  match (datum.get? "manifest").bind fun manifest => manifest.get? "format-version" with
  | none => .error .missingFormatVersion
  | some (.int version) =>
      if version = Fault.formatVersion then .ok ()
      else .error (.unsupportedFormatVersion (Text.ofBytes (Decimal.ofInt version)))
  | some (.real version) => .error (.unsupportedFormatVersion version.text)
  | some other => .error (.formatVersionNotNumber (Text.ofBytes (Json.compact other)))

def requestedFunction (datum : Datum) : Except Fault Function :=
  match datum.get? "function" with
  | some (.text name) => Function.ofName name
  | _ => .error .missingFunction

def scheduleDatum (α : Type) {τ ι : Type} [Serial α] [Schedulable α τ] [Divisible τ ι] [Serial τ]
    (datum : Datum) (taskSize : Nat) : Except Fault TaskSet :=
  match (ofDatum? datum : Option α) with
  | some query => scheduleQuery query taskSize
  | none => .error .unreadableDocument

/-- The response to the query that a document holds, planned by the function
that it names. -/
def schedule (document : Bytes) (taskSize : Nat) : Except Fault TaskSet := do
  let datum ← readWhole document
  checkFormatVersion datum
  match ← requestedFunction datum with
  | .slice => scheduleDatum SliceQuery datum taskSize
  | .curtain => scheduleDatum CurtainQuery datum taskSize

/-- A scheduler with a valid configuration. -/
structure Scheduler where
  config : SchedulerConfig := {}
  taskSize_pos : 1 ≤ config.taskSize := by decide
  deriving DecidableEq, Repr

namespace Scheduler

def ofConfig (config : SchedulerConfig) : Except Fault Scheduler :=
  if taskSize_pos : 1 ≤ config.taskSize then
    .ok { config, taskSize_pos }
  else
    .error (.taskSizeBelowOne config.taskSize)

def ofEnvironment (lookup : String → Option String) : Except Fault Scheduler := do
  ofConfig (← SchedulerConfig.ofEnvironment lookup)

def schedule (scheduler : Scheduler) (document : Bytes) : Except Fault TaskSet :=
  SurveyCube.schedule document scheduler.config.taskSize

end Scheduler

end SurveyCube
