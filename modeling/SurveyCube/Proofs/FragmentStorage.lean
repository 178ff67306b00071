import SurveyCube.Proofs.FragmentKeys
import SurveyCube.Proofs.Schedule
import SurveyCube.Proofs.Storage

/-!
# Stored fragments are fetched

No two fragments have one key.  So a storage that holds the blobs of fragments
gives back the blob of each, in whatever order the fragments are asked for, and
a fragment that was never stored is missed.
-/

namespace SurveyCube

/-! ## Fragments and their keys -/

/-- A volume of fragments, as keys name it.  The extension of its files has no
slash and so stays in the last component of a key. -/
structure Volume where
  storagePrefix : String
  shape : Shape
  fileExtension : String
  plain : '/' ∉ fileExtension.toList
  deriving DecidableEq

/-- A fragment of a volume. -/
structure VolumeFragment where
  volume : Volume
  id : FragmentId
  deriving DecidableEq

namespace VolumeFragment

/-- The key under which a fragment is stored. -/
def key (fragment : VolumeFragment) : String :=
  fragmentKey fragment.volume.storagePrefix fragment.volume.shape fragment.volume.fileExtension
    fragment.id

theorem key_injective {fragment other : VolumeFragment} (same : fragment.key = other.key) :
    fragment = other := by
  obtain ⟨⟨volume, shape, fileExtension, plain⟩, id⟩ := fragment
  obtain ⟨⟨otherVolume, otherShape, otherExtension, otherPlain⟩, otherId⟩ := other
  obtain ⟨rfl, rfl, rfl, rfl⟩ := fragmentKey_injective plain otherPlain same
  rfl

/-- Fragments with their blobs, as they are written to a storage. -/
def blobs (blob : VolumeFragment → Bytes) (fragments : List VolumeFragment) :
    List (String × Bytes) :=
  fragments.map fun fragment => (fragment.key, blob fragment)

theorem lookup_blobs (blob : VolumeFragment → Bytes) (fragments : List VolumeFragment)
    (fragment : VolumeFragment) :
    (blobs blob fragments).lookup fragment.key =
      if fragment ∈ fragments then some (blob fragment) else none := by
  induction fragments with
  | nil => rfl
  | cons first rest ih =>
      rw [blobs, List.map_cons, List.lookup_cons, ← blobs, ih]
      by_cases same : fragment = first
      · subst same
        simp
      · have differ : fragment.key ≠ first.key := fun keys => same (key_injective keys)
        simp [beq_eq_false_iff_ne.mpr differ, same]

end VolumeFragment

/-! ## Fetching -/

namespace TaskBase

/-- A fragment of the volume that a task reads. -/
def fragment (base : TaskBase) (plain : '/' ∉ base.fileExtension.toList) (id : FragmentId) :
    VolumeFragment where
  volume := {
    storagePrefix := base.storagePrefix
    shape := base.shape
    fileExtension := base.fileExtension
    plain }
  id

variable {σ : Type} [Storage σ] {Wrote : σ → List (String × Bytes) → Prop} {storage : σ}
  {log : List (String × Bytes)}

theorem fetch_eq (keeps : KeepsWrites Wrote) (wrote : Wrote storage log) (base : TaskBase)
    (id : FragmentId) :
    base.fetch storage id =
      match log.lookup (base.fragmentKey id) with
      | some content => .ok content
      | none => .error (.fragmentNotFound (base.fragmentKey id)) := by
  rw [fetch, keeps.read wrote]
  cases log.lookup (base.fragmentKey id) <;> rfl

theorem fetchAll_eq_ok {base : TaskBase} {ids : List FragmentId} {content : FragmentId → Bytes}
    (each : ∀ id ∈ ids, base.fetch storage id = .ok (content id)) :
    base.fetchAll storage ids = .ok (ids.map fun id => (id, content id)) := by
  apply mapM_eq_ok_map
  intro id member
  rw [each id member]
  rfl

/-- A fragment that cannot be fetched stops the fetching, and what stops it is
the fault of one of the fragments. -/
theorem exists_fetchAll_eq_error {base : TaskBase} {ids : List FragmentId}
    (some : ∃ id ∈ ids, ∃ fault, base.fetch storage id = .error fault) :
    ∃ id ∈ ids, ∃ fault, base.fetch storage id = .error fault ∧
      base.fetchAll storage ids = .error fault := by
  cases outcome : base.fetchAll storage ids with
  | ok results =>
      obtain ⟨id, member, fault, failed⟩ := some
      obtain ⟨_, _, found⟩ := exists_result_of_forall₂ (mapM_eq_ok.mp outcome) member
      obtain ⟨_, fetched, _⟩ := bind_eq_ok.mp found
      rw [failed] at fetched
      cases fetched
  | error fault =>
      obtain ⟨id, member, stopped⟩ := exists_of_mapM_eq_error outcome
      rcases bind_eq_error.mp stopped with failed | ⟨_, _, impossible⟩
      · exact ⟨id, member, fault, failed, rfl⟩
      · cases impossible

theorem lookup_stored (base : TaskBase) (plain : '/' ∉ base.fileExtension.toList)
    (blob : VolumeFragment → Bytes) (fragments : List VolumeFragment)
    (log : List (String × Bytes)) (id : FragmentId) :
    ((VolumeFragment.blobs blob fragments).reverse ++ log).lookup (base.fragmentKey id) =
      if base.fragment plain id ∈ fragments then some (blob (base.fragment plain id))
      else log.lookup (base.fragmentKey id) := by
  have key : base.fragmentKey id = (base.fragment plain id).key := rfl
  rw [List.lookup_append, VolumeFragment.blobs, ← List.map_reverse, ← VolumeFragment.blobs, key,
    VolumeFragment.lookup_blobs]
  by_cases listed : base.fragment plain id ∈ fragments
  · simp [listed]
  · simp [listed]

end TaskBase

/-! ## Main result -/

/-- Keys and names of files tell all fragments apart.  After fragments have been
written, each under its key, those of one volume are fetched with their blobs, in
the order of the ids; if one of them was never written, this is an inconsistency
of the storage. -/
theorem fragments_stored_apart :
    (∀ (volume otherVolume : String) (shape otherShape : Shape)
        (fileExtension otherExtension : String) (id otherId : FragmentId),
      '/' ∉ fileExtension.toList → '/' ∉ otherExtension.toList →
      fragmentKey volume shape fileExtension id =
        fragmentKey otherVolume otherShape otherExtension otherId →
      volume = otherVolume ∧ shape = otherShape ∧ fileExtension = otherExtension ∧
        id = otherId) ∧
    (∀ (basename otherBasename : String) (id otherId : FragmentId),
      fragmentPath basename id = fragmentPath otherBasename otherId →
      basename = otherBasename ∧ id = otherId) ∧
    ∀ {σ : Type} [Storage σ] {Wrote : σ → List (String × Bytes) → Prop} {storage after : σ}
        {log : List (String × Bytes)},
      KeepsWrites Wrote → Wrote storage log →
      ∀ (fragments : List VolumeFragment) (blob : VolumeFragment → Bytes),
        Storage.writeAll storage (VolumeFragment.blobs blob fragments) = (after, .ok ()) →
        ∀ (base : TaskBase) (plain : '/' ∉ base.fileExtension.toList) (ids : List FragmentId),
          ((∀ id ∈ ids, base.fragment plain id ∈ fragments) →
            base.fetchAll after ids =
              .ok (ids.map fun id => (id, blob (base.fragment plain id)))) ∧
          ((∃ id ∈ ids, base.fragment plain id ∉ fragments ∧
              log.lookup (base.fragmentKey id) = none) →
            ∃ fault, base.fetchAll after ids = .error fault ∧
              fault.kind = .storageInconsistency ∧
              ∃ id ∈ ids, base.fragment plain id ∉ fragments ∧
                fault = .fragmentNotFound (base.fragmentKey id)) := by
  refine ⟨?_, ?_, ?_⟩
  · intro volume otherVolume shape otherShape fileExtension otherExtension id otherId plain
      otherPlain same
    exact fragmentKey_injective plain otherPlain same
  · intro basename otherBasename id otherId same
    exact fragmentPath_injective same
  · intro σ _ Wrote storage after log keeps wrote fragments blob written base plain ids
    have holds := Storage.wrote_writeAll keeps wrote written
    have fetched (id : FragmentId) := base.fetch_eq keeps holds id
    simp only [TaskBase.lookup_stored base plain] at fetched
    constructor
    · intro listed
      apply TaskBase.fetchAll_eq_ok
      intro id member
      rw [fetched, if_pos (listed id member)]
    · rintro ⟨missing, asked, unlisted, absent⟩
      have refused : base.fetch after missing =
          .error (.fragmentNotFound (base.fragmentKey missing)) := by
        rw [fetched, if_neg unlisted, absent]
      obtain ⟨id, member, fault, failed, stopped⟩ :=
        TaskBase.exists_fetchAll_eq_error ⟨missing, asked, _, refused⟩
      refine ⟨fault, stopped, ?_⟩
      rw [fetched] at failed
      split at failed
      · cases failed
      · rename_i nothing
        cases failed
        refine ⟨rfl, id, member, ?_, rfl⟩
        intro listed
        rw [if_pos listed] at nothing
        cases nothing

/-- A volume whose path looks like a directory of the data volume. -/
def nestedTask : TaskBase :=
  smallTask "data" "src/2-2-2" ⟨2, 2, 2⟩ ⟨3, 2, 3⟩

def dataTask : TaskBase :=
  smallTask "data" "src" ⟨2, 2, 2⟩ ⟨3, 2, 3⟩

def smallFragments : List VolumeFragment := [
  dataTask.fragment (by decide) ⟨0, 0, 0⟩,
  dataTask.fragment (by decide) ⟨1, 0, 0⟩,
  nestedTask.fragment (by decide) ⟨0, 0, 0⟩]

def smallBlob (fragment : VolumeFragment) : Bytes :=
  if fragment.volume.storagePrefix = "src" then [1, UInt8.ofNat fragment.id.x] else [2]

/-- One fragment is fetched twice, and one is missing from the nested volume. -/
theorem smallFragments_stored_apart :
    ∃ after : BlobMap,
      Storage.writeAll (⟨[]⟩ : BlobMap) (VolumeFragment.blobs smallBlob smallFragments) =
        (after, .ok ()) ∧
      dataTask.fetchAll after [⟨1, 0, 0⟩, ⟨0, 0, 0⟩, ⟨1, 0, 0⟩] =
        .ok [(⟨1, 0, 0⟩, [1, 1]), (⟨0, 0, 0⟩, [1, 0]), (⟨1, 0, 0⟩, [1, 1])] ∧
      (∃ fault, nestedTask.fetchAll after [⟨0, 0, 0⟩, ⟨1, 0, 0⟩] = .error fault ∧
        fault.kind = .storageInconsistency) ∧
      fragmentKey "src/2-2-2" ⟨2, 2, 2⟩ "f32" ⟨0, 0, 0⟩ ≠
        fragmentKey "src" ⟨2, 2, 2⟩ "f32" ⟨0, 0, 0⟩ := by
  obtain ⟨keys, _, stored⟩ := fragments_stored_apart
  have nothing : (⟨[]⟩ : BlobMap).entries = [] := rfl
  have fetched := stored BlobMap.keepsWrites nothing smallFragments smallBlob
    (BlobMap.writeAll_eq _ _)
  refine ⟨_, BlobMap.writeAll_eq _ _, ?_, ?_, ?_⟩
  · exact (fetched dataTask (by decide) _).1 (by decide)
  · have missing : nestedTask.fragment (by decide) ⟨1, 0, 0⟩ ∉ smallFragments := by decide
    obtain ⟨fault, stopped, kind, _⟩ := (fetched nestedTask (by decide)
      [⟨0, 0, 0⟩, ⟨1, 0, 0⟩]).2 ⟨⟨1, 0, 0⟩, by decide, missing, rfl⟩
    exact ⟨fault, stopped, kind⟩
  · intro same
    have volumes := (keys _ _ _ _ _ _ _ _ (by decide) (by decide) same).1
    exact absurd volumes (by decide)

end SurveyCube
