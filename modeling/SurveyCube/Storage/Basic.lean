import SurveyCube.Bytes
import SurveyCube.Fault

/-!
# Storage

A storage keeps byte strings under keys.  It is used through two operations
only, so that any store can stand behind manifests and fragments; `BlobMap` is
the plainest one, a map in memory.

`storageDirectory` finds the directory that a storage address names.
-/

namespace SurveyCube

/-- Stores of byte strings under keys. -/
class Storage (σ : Type) where
  /-- The bytes under a key. -/
  read : σ → String → Except FileFault Bytes
  /-- Put bytes under a key, in place of what was there.  A failure may leave
  traces, such as directories made on the way. -/
  write : σ → String → Bytes → σ × Except FileFault Unit

/-- A map from keys to bytes; the first entry of a key counts. -/
structure BlobMap where
  entries : List (String × Bytes)
  deriving DecidableEq, Repr

instance : Storage BlobMap where
  read map key :=
    match map.entries.lookup key with
    | some content => .ok content
    | none => .error .missing
  write map key content := (⟨(key, content) :: map.entries⟩, .ok ())

/-- The parts of a text before and after the first occurrence of a separator. -/
def splitOnce? (separator : List Char) : List Char → Option (List Char × List Char)
  | [] => if separator.isEmpty then some ([], []) else none
  | c :: rest =>
      if separator.isPrefixOf (c :: rest) then
        some ([], (c :: rest).drop separator.length)
      else
        (splitOnce? separator rest).map fun (before, after) => (c :: before, after)

/-- The directory that an address names: a plain path, or a path after the
scheme `file`. -/
def storageDirectory (address : String) : Except Fault String :=
  match splitOnce? "://".toList address.toList with
  | none => .ok address
  | some (scheme, path) =>
      if scheme = "file".toList then .ok (String.ofList path)
      else .error (.unsupportedScheme (String.ofList scheme))

end SurveyCube
