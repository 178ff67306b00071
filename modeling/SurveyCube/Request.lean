import SurveyCube.Query

/-!
# Requests

A request is the sending side of a query: it names the function to plan and its
arguments, and its document is what the scheduler accepts.
-/

namespace SurveyCube

inductive Arguments where
  | slice (dim idx : Nat)
  | curtain (dim0s dim1s : List Nat)
  deriving DecidableEq, Repr

/-- A query document in the making. -/
structure Request where
  pid : String
  token : String := ""
  guid : String := ""
  storageEndpoint : String := ""
  manifest : Manifest
  attributes : List String := []
  arguments : Arguments
  deriving DecidableEq, Repr

namespace Request

/-- A request for the plane at index `idx` along axis `dim`. -/
def slice (pid : String) (manifest : Manifest) (dim idx : Nat) : Request :=
  { pid, manifest, arguments := .slice dim idx }

/-- A request for the section under a polyline. -/
def curtain (pid : String) (manifest : Manifest) (pairs : List (Nat × Nat)) : Request :=
  { pid, manifest, arguments := .curtain (pairs.map Prod.fst) (pairs.map Prod.snd) }

def base (request : Request) : QueryBase :=
  { pid := request.pid
    token := request.token
    guid := request.guid
    storageEndpoint := request.storageEndpoint
    manifest := request.manifest
    attributes := request.attributes }

end Request

def Arguments.toFields : Arguments → List (String × Datum)
  | .slice dim idx => [
      ("function", toDatum Function.slice),
      ("dim", toDatum dim),
      ("idx", toDatum idx)]
  | .curtain dim0s dim1s => [
      ("function", toDatum Function.curtain),
      ("dim0s", toDatum dim0s),
      ("dim1s", toDatum dim1s)]

namespace Request

def toDocument (request : Request) : Bytes :=
  Json.compact (.record (request.base.toFields ++ request.arguments.toFields))

end Request

end SurveyCube
