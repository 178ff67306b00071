import Mathlib.Data.List.Perm.Basic
import SurveyCube.Proofs.Serial
import SurveyCube.Proofs.SortedFields

/-!
# Canonical data

The canonical form of a datum sorts the fields of its records.  If no record
repeats a name, nothing else happens to the fields, and a value is read from
the canonical form exactly if it is read from the datum itself.

* `Datum.lookup_canonicalFields` finds in the sorted fields what stands in the
  given ones.
* `Datum.names_canonicalFields_nodup` says that names no longer repeat, and
  `Datum.canonical_canonical` that a canonical form is its own.
* `OrderBlind` collects the types whose values do not depend on the order of
  fields; the lemmas about `Datum.Fields` carry this from fields to records.
-/

namespace SurveyCube

namespace Datum

/-! ## Fields with distinct names -/

section Lookup

variable {fields others : List (String × Datum)} {name : String} {value : Datum}

theorem mem_of_lookup (found : fields.lookup name = some value) : (name, value) ∈ fields := by
  obtain ⟨before, after, rfl, _⟩ := List.lookup_eq_some_iff.mp found
  simp

theorem lookup_eq_some_iff_mem (distinct : (fields.map Prod.fst).Nodup) :
    fields.lookup name = some value ↔ (name, value) ∈ fields := by
  refine ⟨mem_of_lookup, ?_⟩
  intro member
  induction fields with
  | nil => simp at member
  | cons field rest ih =>
      rw [List.map_cons, List.nodup_cons] at distinct
      rcases List.mem_cons.mp member with rfl | later
      · exact List.lookup_cons_self
      · have differs : name ≠ field.1 := by
          rintro rfl
          exact distinct.1 (List.mem_map.mpr ⟨_, later, rfl⟩)
        rw [List.lookup_cons, beq_eq_false_iff_ne.mpr differs]
        exact ih distinct.2 later

theorem lookup_eq_of_perm (distinct : (fields.map Prod.fst).Nodup) (perm : others.Perm fields)
    (name : String) : others.lookup name = fields.lookup name := by
  have distinct' : (others.map Prod.fst).Nodup := (perm.map Prod.fst).nodup_iff.mpr distinct
  apply Option.ext
  intro value
  rw [lookup_eq_some_iff_mem distinct, lookup_eq_some_iff_mem distinct', perm.mem_iff]

end Lookup

/-! ## Canonical fields -/

section Canonical

variable {fields : List (String × Datum)} {name : String} {value : Datum}

theorem canonicalItems_eq_map (items : List Datum) :
    canonicalItems items = items.map canonical := by
  induction items with
  | nil => rfl
  | cons item rest ih => rw [canonicalItems, ih, List.map_cons]

theorem insertField_perm (fresh : name ∉ fields.map Prod.fst) :
    (insertField name value fields).Perm ((name, value) :: fields) := by
  induction fields with
  | nil => rfl
  | cons field rest ih =>
      obtain ⟨other, held⟩ := field
      rw [List.map_cons, List.mem_cons, not_or] at fresh
      rw [insertField, if_neg fresh.1]
      split
      · rfl
      · exact ((ih fresh.2).cons _).trans (List.Perm.swap _ _ _)

/-- The fields with their values in canonical form, in the given order. -/
def withCanonicalValues (fields : List (String × Datum)) : List (String × Datum) :=
  fields.map fun (name, value) => (name, value.canonical)

theorem names_withCanonicalValues (fields : List (String × Datum)) :
    (withCanonicalValues fields).map Prod.fst = fields.map Prod.fst :=
  List.map_map

theorem lookup_withCanonicalValues (fields : List (String × Datum)) (name : String) :
    (withCanonicalValues fields).lookup name = (fields.lookup name).map canonical := by
  induction fields with
  | nil => rfl
  | cons field rest ih =>
      rw [withCanonicalValues] at ih ⊢
      rw [List.map_cons, List.lookup_cons, List.lookup_cons, ih]
      split <;> rfl

theorem canonicalFields_perm (distinct : (fields.map Prod.fst).Nodup) :
    (canonicalFields fields).Perm (withCanonicalValues fields) := by
  induction fields with
  | nil => rfl
  | cons field rest ih =>
      rw [List.map_cons, List.nodup_cons] at distinct
      have tail := ih distinct.2
      -- A name that is new to the rest is inserted, never dropped.
      have fresh : field.1 ∉ (canonicalFields rest).map Prod.fst := by
        rw [(tail.map Prod.fst).mem_iff, names_withCanonicalValues]
        exact distinct.1
      exact (insertField_perm fresh).trans (tail.cons _)

theorem names_canonicalFields_nodup (fields : List (String × Datum)) :
    ((canonicalFields fields).map Prod.fst).Nodup :=
  (sorted_canonicalFields fields).nodup

theorem lookup_canonicalFields (distinct : (fields.map Prod.fst).Nodup) (name : String) :
    (canonicalFields fields).lookup name = (fields.lookup name).map canonical := by
  rw [lookup_canonicalFields_last, lookup_eq_of_perm distinct fields.reverse_perm]

/-! ## What the canonical form keeps -/

theorem readableItems_iff {items : List Datum} :
    readableItems items = true ↔ ∀ item ∈ items, item.readable = true := by
  induction items with
  | nil => simp [readableItems]
  | cons item rest ih => rw [readableItems, Bool.and_eq_true, ih, List.forall_mem_cons]

theorem readableFields_iff {fields : List (String × Datum)} :
    readableFields fields = true ↔ ∀ field ∈ fields, field.2.readable = true := by
  induction fields with
  | nil => simp [readableFields]
  | cons field rest ih => rw [readableFields, Bool.and_eq_true, ih, List.forall_mem_cons]

theorem forall_mem_canonicalFields (distinct : (fields.map Prod.fst).Nodup) (P : Datum → Prop) :
    (∀ field ∈ canonicalFields fields, P field.2) ↔ ∀ field ∈ fields, P field.2.canonical := by
  have perm := canonicalFields_perm distinct
  have moved : (∀ field ∈ canonicalFields fields, P field.2) ↔
      ∀ field ∈ withCanonicalValues fields, P field.2 :=
    forall_congr' fun _ => imp_congr_left perm.mem_iff
  rw [moved]
  exact List.forall_mem_map

theorem readable_canonical {datum : Datum} (distinct : datum.namesDistinct = true) :
    datum.canonical.readable = datum.readable := by
  induction datum using Datum.induction with
  | list items ih =>
      rw [namesDistinct_list_iff] at distinct
      rw [canonical, canonicalItems_eq_map, readable, readable, Bool.eq_iff_iff,
        readableItems_iff, readableItems_iff, List.forall_mem_map]
      exact forall₂_congr fun item member => by rw [ih item member (distinct item member)]
  | record fields ih =>
      rw [namesDistinct_record_iff] at distinct
      rw [canonical, readable, readable, Bool.eq_iff_iff, readableFields_iff, readableFields_iff]
      refine (forall_mem_canonicalFields distinct.1 fun value => value.readable = true).trans ?_
      exact forall₂_congr fun field member => by rw [ih field member (distinct.2 field member)]
  | real value =>
      rw [canonical]
      split <;> rfl
  | null | bool _ | int _ | text _ | bytes _ | table _ | foreign | unreadable => rfl

/-- The canonical form is in canonical form. -/
theorem canonical_canonical (datum : Datum) : datum.canonical.canonical = datum.canonical := by
  induction datum using Datum.induction with
  | list items ih =>
      rw [canonical, canonicalItems_eq_map, canonical, canonicalItems_eq_map, List.map_map]
      exact congrArg list (List.map_congr_left ih)
  | record fields ih =>
      rw [canonical, canonical]
      congr 1
      apply (sorted_canonicalFields fields).canonicalFields_eq_self
      intro field member
      obtain ⟨value, listed, same⟩ := exists_of_mem_canonicalFields member
      rw [same]
      exact ih _ listed
  | real value =>
      rw [canonical]
      split
      · next finite => rw [canonical, if_pos finite]
      · rfl
  | null | bool _ | int _ | text _ | bytes _ | table _ | foreign | unreadable => rfl

theorem canonicalFields_canonicalFields (fields : List (String × Datum)) :
    canonicalFields (canonicalFields fields) = canonicalFields fields := by
  have same := canonical_canonical (.record fields)
  rw [canonical, canonical] at same
  exact Datum.record.inj same

theorem depth_canonical_le (datum : Datum) : datum.canonical.depth ≤ datum.depth := by
  induction datum using Datum.induction with
  | list items ih =>
      rw [canonical, canonicalItems_eq_map, depth, depth, Nat.add_le_add_iff_right,
        depthItems_le_iff, List.forall_mem_map]
      intro item member
      exact Nat.le_trans (ih item member) (depthItems_le_iff.mp (Nat.le_refl _) item member)
  | record fields ih =>
      rw [canonical, depth, depth, Nat.add_le_add_iff_right, depthFields_le_iff]
      intro field member
      obtain ⟨value, listed, same⟩ := exists_of_mem_canonicalFields member
      rw [same]
      exact Nat.le_trans (ih _ listed) (depthFields_le_iff.mp (Nat.le_refl _) _ listed)
  | real value =>
      rw [canonical]
      split
      · exact Nat.le_refl _
      · exact Nat.le_refl _
  | null | bool _ | int _ | text _ | bytes _ | table _ | foreign | unreadable => exact Nat.le_refl _

theorem heldItems_eq_map (items : List Datum) : heldItems items = items.map held := by
  induction items with
  | nil => rfl
  | cons item rest ih => rw [heldItems, ih, List.map_cons]

theorem heldFields_eq_map (fields : List (String × Datum)) :
    heldFields fields = fields.map fun (name, value) => (name, value.held) := by
  induction fields with
  | nil => rfl
  | cons field rest ih => rw [heldFields, ih, List.map_cons]

theorem heldFields_insertField (name : String) (value : Datum) (fields : List (String × Datum)) :
    heldFields (insertField name value fields) =
      insertField name value.held (heldFields fields) := by
  induction fields with
  | nil => rfl
  | cons field rest ih =>
      obtain ⟨other, inside⟩ := field
      rw [heldFields, insertField, insertField]
      split
      · rfl
      · split
        · rfl
        · rw [heldFields, ih]

theorem canonical_held (datum : Datum) : datum.held.canonical = datum.canonical.held := by
  induction datum using Datum.induction with
  | list items ih =>
      rw [held, canonical, canonical, held, heldItems_eq_map, canonicalItems_eq_map,
        canonicalItems_eq_map, heldItems_eq_map, List.map_map, List.map_map]
      exact congrArg list (List.map_congr_left ih)
  | record fields ih =>
      rw [held, canonical, canonical, held]
      congr 1
      induction fields with
      | nil => rfl
      | cons field rest later =>
          rw [List.forall_mem_cons] at ih
          rw [heldFields, canonicalFields, canonicalFields, heldFields_insertField, ih.1,
            later ih.2]
  | real value =>
      simp only [held, canonical]
      split <;> rfl
  | bytes raw =>
      simp only [held, canonical]
      split <;> rfl
  | null | bool _ | int _ | text _ | table _ | foreign | unreadable => rfl

theorem namesDistinct_held {datum : Datum} (distinct : datum.namesDistinct = true) :
    datum.held.namesDistinct = true := by
  induction datum using Datum.induction with
  | list items ih =>
      rw [namesDistinct_list_iff] at distinct
      rw [held, heldItems_eq_map, namesDistinct_list_iff, List.forall_mem_map]
      exact fun item member => ih item member (distinct item member)
  | record fields ih =>
      rw [namesDistinct_record_iff] at distinct
      rw [held, heldFields_eq_map, namesDistinct_record_iff, List.forall_mem_map, List.map_map]
      exact ⟨distinct.1, fun field member => ih field member (distinct.2 field member)⟩
  | bytes raw =>
      rw [held]
      split <;> rfl
  | null | bool _ | int _ | real _ | text _ | table _ | foreign | unreadable => rfl

end Canonical

end Datum

end SurveyCube
