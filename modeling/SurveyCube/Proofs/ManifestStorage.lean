import SurveyCube.Proofs.Json.Indented
import SurveyCube.Proofs.Plain
import SurveyCube.Proofs.Schedule
import SurveyCube.Proofs.Storage
import SurveyCube.Storage.Manifests

/-!
# Stored manifests are fetched

* The document of a manifest holds the manifest, valid or not, so reading it
  ends as the validation does (`Manifest.ofDocument_indented`).
* After any number of manifests have been stored, the last one of a survey is
  fetched, and other surveys are fetched as before.
-/

namespace SurveyCube

/-! ## Documents of manifests -/

namespace Manifest

theorem ofDocument_indented {manifest : Manifest} (words : fitWords manifest = true) :
    ofDocument (Json.indented (toDatum manifest)) = manifest.validate.map fun _ => manifest := by
  have held := Json.document?_indented (isPlain_toDatum words)
    (Nat.le_trans (depth_toDatum_le manifest) (by decide))
  have read : readDocument Manifest (Json.indented (toDatum manifest)) = .ok manifest := by
    rw [readDocument, held, Option.bind_some, ofDatum?_toDatum words]
  rw [ofDocument, read]
  cases validated : manifest.validate with
  | ok _ => simp [bind, Except.bind, validated, Except.map, pure, Except.pure]
  | error fault => simp [bind, Except.bind, validated, Except.map]

/-! ## Storing and fetching -/

theorem key_injective {survey other : String} (same : key survey = key other) : survey = other := by
  unfold key at same
  exact String.append_left_inj _ |>.mp same

/-- What is written to store a manifest. -/
def blob (put : String × Manifest) : String × Bytes :=
  (key put.1, Json.indented (toDatum put.2))

theorem lookup_map_blob (puts : List (String × Manifest)) (survey : String) :
    (puts.map blob).lookup (key survey) =
      (puts.lookup survey).map fun manifest => Json.indented (toDatum manifest) := by
  induction puts with
  | nil => rfl
  | cons put later ih =>
      obtain ⟨other, manifest⟩ := put
      rw [List.map_cons, blob, List.lookup_cons, List.lookup_cons, ih]
      by_cases same : survey = other
      · subst same
        simp
      · have differ : key survey ≠ key other := fun keys => same (key_injective keys)
        rw [beq_eq_false_iff_ne.mpr same, beq_eq_false_iff_ne.mpr differ]

variable {σ : Type} [Storage σ]

/-- Store manifests one after the other, up to the first failure. -/
def storeAll (storage : σ) : List (String × Manifest) → σ × Except Fault Unit
  | [] => (storage, .ok ())
  | (survey, manifest) :: later =>
      match store storage survey manifest with
      | (after, .ok ()) => storeAll after later
      | (after, .error fault) => (after, .error fault)

variable {Wrote : σ → List (String × Bytes) → Prop} {storage after : σ}
  {log : List (String × Bytes)}

theorem fetch_eq (keeps : KeepsWrites Wrote) (wrote : Wrote storage log) (survey : String) :
    fetch storage survey =
      match log.lookup (key survey) with
      | some document => ofDocument document
      | none => .error (.manifestNotFound survey) := by
  rw [fetch, keeps.read wrote]
  cases log.lookup (key survey) <;> rfl

/-- Storing writes the document of the manifest, and fails only if the storage
does. -/
theorem store_eq_ok {survey : String} {manifest : Manifest} :
    (store storage survey manifest).2 = .ok () ↔
      (Storage.write storage (key survey) (Json.indented (toDatum manifest))).2 = .ok () :=
  mapError_eq_ok

theorem wrote_store (keeps : KeepsWrites Wrote) (wrote : Wrote storage log) {survey : String}
    {manifest : Manifest} (stored : store storage survey manifest = (after, .ok ())) :
    Wrote after (blob (survey, manifest) :: log) := by
  have written := store_eq_ok.mp (congrArg Prod.snd stored)
  have same : (Storage.write storage (key survey) (Json.indented (toDatum manifest))).1 = after :=
    congrArg Prod.fst stored
  rw [← same]
  exact keeps.write wrote _ _ written

/-- The blobs of stored manifests come before what was written earlier. -/
theorem wrote_storeAll (keeps : KeepsWrites Wrote) {puts : List (String × Manifest)}
    (wrote : Wrote storage log) (stored : storeAll storage puts = (after, .ok ())) :
    Wrote after ((puts.map blob).reverse ++ log) := by
  induction puts generalizing storage log with
  | nil =>
      cases stored
      exact wrote
  | cons put later ih =>
      obtain ⟨survey, manifest⟩ := put
      unfold storeAll at stored
      split at stored
      · rename_i between first
        have next := ih (wrote_store keeps wrote first) stored
        rwa [List.map_cons, List.reverse_cons, List.append_assoc, List.singleton_append]
      · cases stored

/-- After manifests have been stored, the last one of a survey is fetched if it
is valid, and its fault is reported if it is not.  Other surveys are fetched as
before; what was never written is not found. -/
theorem fetch_after_stores (keeps : KeepsWrites Wrote) (wrote : Wrote storage log)
    (puts : List (String × Manifest)) (words : ∀ put ∈ puts, fitWords put.2 = true)
    (stored : storeAll storage puts = (after, .ok ())) (survey : String) :
    (∀ manifest, puts.reverse.lookup survey = some manifest →
      (manifest.validate = .ok () → fetch after survey = .ok manifest) ∧
      ∀ fault, manifest.validate = .error fault → fetch after survey = .error fault) ∧
    (puts.reverse.lookup survey = none → fetch after survey = fetch storage survey) ∧
    (puts.reverse.lookup survey = none → log.lookup (key survey) = none →
      fetch after survey = .error (.manifestNotFound survey)) := by
  have fetched := fetch_eq keeps (wrote_storeAll keeps wrote stored) survey
  rw [List.lookup_append, ← List.map_reverse, lookup_map_blob] at fetched
  have before := fetch_eq keeps wrote survey
  refine ⟨?_, ?_, ?_⟩
  · intro manifest last
    -- The storage holds the document of the last manifest in front of all others.
    have member : (survey, manifest) ∈ puts := by
      obtain ⟨later, earlier, split, _⟩ := List.lookup_eq_some_iff.mp last
      rw [← List.mem_reverse, split]
      exact List.mem_append_right later List.mem_cons_self
    have read : fetch after survey = manifest.validate.map fun _ => manifest := by
      rw [fetched, last]
      exact ofDocument_indented (words _ member)
    rw [read]
    constructor
    · intro valid
      rw [valid]
      rfl
    · intro fault invalid
      rw [invalid]
      rfl
  · intro absent
    rw [absent] at fetched
    rw [before]
    exact fetched
  · intro absent missing
    rw [absent, missing] at fetched
    exact fetched

/-- The small survey without data volumes, which is not valid. -/
def withoutData : Manifest :=
  { smallSurvey with data := [] }

/-- A manifest is stored twice, first in a form that is not valid, and another
survey is asked for. -/
theorem smallSurvey_fetched_after_stores :
    ∃ after : BlobMap,
      storeAll (⟨[]⟩ : BlobMap)
          [("a", withoutData), ("a", smallSurvey), ("b", withoutData)] = (after, .ok ()) ∧
      fetch after "a" = .ok smallSurvey ∧ fetch after "b" = .error .missingData ∧
      fetch after "c" = .error (.manifestNotFound "c") ∧
      (Fault.manifestNotFound "c").kind = .notFound := by
  have nothing : (⟨[]⟩ : BlobMap).entries = [] := rfl
  have fetched := fetch_after_stores BlobMap.keepsWrites nothing
    [("a", withoutData), ("a", smallSurvey), ("b", withoutData)] (by decide) rfl
  refine ⟨_, rfl, ?_, ?_, ?_, rfl⟩
  · exact ((fetched "a").1 smallSurvey (by decide)).1 (by decide)
  · exact ((fetched "b").1 withoutData (by decide)).2 _ (by decide)
  · exact (fetched "c").2.2 (by decide) rfl

end Manifest

end SurveyCube
