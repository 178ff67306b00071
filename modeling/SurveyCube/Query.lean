import SurveyCube.Manifest

/-!
# Queries

A query asks for part of a survey and for some of its attributes.  It carries
the manifest of the survey, so that planning needs nothing else.

* A *slice* is the axis-aligned plane at one line.
* A *curtain* is the vertical section under a polyline of traces.

Attribute names are normalized before planning: `cdp` is short for the pair
`cdpx`, `cdpy`, and the names are sorted by their bytes without repetitions.
-/

namespace SurveyCube

/-- The shapes of query that can be planned. -/
inductive Function where
  | slice
  | curtain
  deriving DecidableEq, Repr

namespace Function

def name : Function → String
  | .slice => "slice"
  | .curtain => "curtain"

def ofName? : String → Option Function
  | "slice" => some .slice
  | "curtain" => some .curtain
  | _ => none

def ofName (name : String) : Except Fault Function :=
  match ofName? name with
  | some function => .ok function
  | none => .error (.unknownFunction name)

@[simp]
theorem ofName?_name (function : Function) : ofName? function.name = some function := by
  cases function <;> rfl

end Function

structure QueryBase where
  /-- The process id, which every task and the header repeat. -/
  pid : String
  /-- A credential that is handed on to the workers. -/
  token : String
  /-- The survey id. -/
  guid : String
  storageEndpoint : String
  manifest : Manifest
  attributes : List String
  deriving DecidableEq, Repr

/-- The plane at line `idx` along axis `dim`. -/
structure SliceQuery where
  base : QueryBase
  dim : Nat
  idx : Nat
  deriving DecidableEq, Repr

/-- The vertical section under the polyline through `(dim0s[i], dim1s[i])`. -/
structure CurtainQuery where
  base : QueryBase
  dim0s : List Nat
  dim1s : List Nat
  deriving DecidableEq, Repr

namespace CurtainQuery

/-- The traces of the polyline.  Both coordinate lists have to be of one
length. -/
def pairs (query : CurtainQuery) : Except Fault (List (Nat × Nat)) :=
  if query.dim0s.length = query.dim1s.length then
    .ok (query.dim0s.zip query.dim1s)
  else
    .error (.raggedCurtain query.dim0s.length query.dim1s.length)

end CurtainQuery

/-! ## Attribute names -/

/-- The names that an attribute name is short for. -/
def expandAttribute (name : String) : List String :=
  if name = "cdp" then ["cdpx", "cdpy"] else [name]

/-- The first of every run of equal names. -/
def dropRepeats : List String → List String
  | [] => []
  | [name] => [name]
  | name :: next :: rest =>
      if name = next then dropRepeats (next :: rest)
      else name :: dropRepeats (next :: rest)

/-- The expanded names, sorted by their bytes and without repetitions. -/
def normalizedAttributes (names : List String) : List String :=
  dropRepeats ((names.flatMap expandAttribute).mergeSort Text.notAfter)

namespace QueryBase

def normalized (base : QueryBase) : QueryBase :=
  { base with attributes := normalizedAttributes base.attributes }

end QueryBase

/-! ## Documents -/

instance : Serial Function where
  toDatum function := .text function.name
  ofDatum? datum := (ofDatum? datum).bind Function.ofName?

namespace QueryBase

def fieldNames : List String :=
  ["pid", "token", "guid", "storage_endpoint", "manifest", "attributes"]

def toFields (base : QueryBase) : List (String × Datum) := [
  ("pid", toDatum base.pid),
  ("token", toDatum base.token),
  ("guid", toDatum base.guid),
  ("storage_endpoint", toDatum base.storageEndpoint),
  ("manifest", toDatum base.manifest),
  ("attributes", toDatum base.attributes)]

def ofFields? (fields : Datum.Fields) : Option QueryBase := do
  return {
    pid := ← fields.required "pid"
    token := ← fields.orElse "token" ""
    guid := ← fields.orElse "guid" ""
    storageEndpoint := ← fields.orElse "storage_endpoint" ""
    manifest := ← fields.required "manifest"
    attributes := ← fields.orElse "attributes" [] }

end QueryBase

instance : Serial QueryBase where
  toDatum base := .record base.toFields
  ofDatum? datum := (datum.fields? QueryBase.fieldNames).bind QueryBase.ofFields?

/-- The shared part is flattened into a query, so its fields are put aside until
the query has been read as a whole. -/
instance : Serial SliceQuery where
  toDatum query := .record (query.base.toFields ++ [
    ("dim", toDatum query.dim),
    ("idx", toDatum query.idx)])
  ofDatum? datum := do
    guard datum.readable
    let fields ← datum.flatFields? (QueryBase.fieldNames ++ ["dim", "idx"])
    return {
      base := ← QueryBase.ofFields? fields.held
      dim := ← fields.required "dim"
      idx := ← fields.required "idx" }

/-- The shared part is flattened into a query, so its fields are put aside until
the query has been read as a whole. -/
instance : Serial CurtainQuery where
  toDatum query := .record (query.base.toFields ++ [
    ("dim0s", toDatum query.dim0s),
    ("dim1s", toDatum query.dim1s)])
  ofDatum? datum := do
    guard datum.readable
    let fields ← datum.flatFields? (QueryBase.fieldNames ++ ["dim0s", "dim1s"])
    return {
      base := ← QueryBase.ofFields? fields.held
      dim0s := ← fields.required "dim0s"
      dim1s := ← fields.required "dim1s" }

end SurveyCube
