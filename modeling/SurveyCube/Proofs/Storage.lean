import SurveyCube.Storage.Basic

/-!
# Storages that keep what is written

`KeepsWrites` says what a storage promises: reading gives what was written last
under a key.  A write may fail.  Writing many blobs comes down to writing one.
-/

namespace SurveyCube

/-- Reading gives what was written last under a key, and only a key that was
never written is missing.  The relation ties a storage to the writes that have
succeeded, the latest first. -/
structure KeepsWrites {σ : Type} [Storage σ] (Wrote : σ → List (String × Bytes) → Prop) :
    Prop where
  read {storage : σ} {log : List (String × Bytes)} (wrote : Wrote storage log) (key : String) :
    Storage.read storage key =
      match log.lookup key with
      | some content => .ok content
      | none => .error .missing
  write {storage : σ} {log : List (String × Bytes)} (wrote : Wrote storage log) (key : String)
    (content : Bytes) : (Storage.write storage key content).2 = .ok () →
      Wrote (Storage.write storage key content).1 ((key, content) :: log)

/-- A map in memory keeps its writes as its entries. -/
theorem BlobMap.keepsWrites : KeepsWrites fun (map : BlobMap) log => map.entries = log where
  read := by
    rintro map log rfl key
    rfl
  write := by
    rintro map log rfl key content _
    rfl

namespace Storage

variable {σ : Type} [Storage σ]

/-- Write blobs under their keys one after the other, up to the first failure. -/
def writeAll (storage : σ) : List (String × Bytes) → σ × Except FileFault Unit
  | [] => (storage, .ok ())
  | (key, content) :: later =>
      match write storage key content with
      | (after, .ok ()) => writeAll after later
      | (after, .error fault) => (after, .error fault)

/-- Blobs that have been written come before what was written earlier. -/
theorem wrote_writeAll
    {Wrote : σ → List (String × Bytes) → Prop} {storage after : σ}
    {log blobs : List (String × Bytes)} (keeps : KeepsWrites Wrote) (wrote : Wrote storage log)
    (written : writeAll storage blobs = (after, .ok ())) :
    Wrote after (blobs.reverse ++ log) := by
  induction blobs generalizing storage log with
  | nil =>
      cases written
      exact wrote
  | cons blob later ih =>
      obtain ⟨key, content⟩ := blob
      unfold writeAll at written
      split at written
      · rename_i between first
        have one : Wrote between ((key, content) :: log) := by
          have kept := keeps.write wrote key content
          rw [first] at kept
          exact kept rfl
        have all := ih one written
        rwa [List.reverse_cons, List.append_assoc, List.singleton_append]
      · cases written

end Storage

/-- A map in memory takes every blob. -/
theorem BlobMap.writeAll_eq (map : BlobMap) (blobs : List (String × Bytes)) :
    Storage.writeAll map blobs = (⟨blobs.reverse ++ map.entries⟩, .ok ()) := by
  induction blobs generalizing map with
  | nil => rfl
  | cons blob later ih =>
      have first : Storage.writeAll map (blob :: later) =
          Storage.writeAll (⟨blob :: map.entries⟩ : BlobMap) later := rfl
      rw [first, ih, List.reverse_cons, List.append_assoc, List.singleton_append]

end SurveyCube
