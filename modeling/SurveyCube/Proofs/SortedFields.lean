import SurveyCube.Proofs.Datum
import SurveyCube.Proofs.NameOrder

/-!
# Sorted fields

Fields are brought into canonical form by insertion, and a name that is there
already is not inserted again.  What comes of fields whose names may repeat is
sorted strictly, so no name stands twice in it, and under every name stands the
last value that the given fields had for it.

Fields that are sorted, with values in canonical form, stay as they are.
-/

namespace SurveyCube

namespace Datum

/-- The names of the fields ascend strictly. -/
def Sorted (fields : List (String × Datum)) : Prop :=
  fields.Pairwise fun earlier later => Text.precedes earlier.1 later.1 = true

variable {fields : List (String × Datum)} {name : String} {value : Datum}

theorem Sorted.nodup (sorted : Sorted fields) : (fields.map Prod.fst).Nodup :=
  List.pairwise_map.mpr (sorted.imp Text.ne_of_precedes)

/-! ## One field -/

theorem mem_insertField {field : String × Datum}
    (member : field ∈ insertField name value fields) :
    field = (name, value) ∨ field ∈ fields := by
  induction fields with
  | nil => exact Or.inl (List.mem_singleton.mp member)
  | cons first rest ih =>
      obtain ⟨other, held⟩ := first
      rw [insertField] at member
      split at member
      · exact Or.inr member
      · split at member
        · exact List.mem_cons.mp member
        · rcases List.mem_cons.mp member with rfl | later
          · exact Or.inr List.mem_cons_self
          · exact (ih later).imp_right (List.mem_cons_of_mem _)

theorem Sorted.insertField (sorted : Sorted fields) (name : String) (value : Datum) :
    Sorted (insertField name value fields) := by
  induction fields with
  | nil => exact List.pairwise_singleton _ _
  | cons first rest ih =>
      obtain ⟨other, held⟩ := first
      obtain ⟨least, later⟩ := List.pairwise_cons.mp sorted
      rw [Datum.insertField]
      split
      · -- The name is there already, and nothing is inserted.
        exact sorted
      · next different =>
        split
        · next before =>
          refine List.pairwise_cons.mpr ⟨?_, sorted⟩
          rw [List.forall_mem_cons]
          exact ⟨before, fun field member => Text.precedes_trans before (least field member)⟩
        · next behind =>
          refine List.pairwise_cons.mpr ⟨?_, ih later⟩
          intro field member
          rcases mem_insertField member with rfl | inside
          · -- The order of names is total, so the name belongs further on.
            exact Text.precedes_of_ne different behind
          · exact least field inside

theorem insertField_of_least
    (least : ∀ field ∈ fields, Text.precedes name field.1 = true) (value : Datum) :
    insertField name value fields = (name, value) :: fields := by
  cases fields with
  | nil => rfl
  | cons first rest =>
      have before := least first List.mem_cons_self
      rw [insertField, if_neg (Text.ne_of_precedes before), if_pos before]

theorem lookup_eq_none_of_least
    (least : ∀ field ∈ fields, Text.precedes name field.1 = true) :
    fields.lookup name = none := by
  rw [List.lookup_eq_none_iff]
  intro field member
  exact bne_iff_ne.mpr (Text.ne_of_precedes (least field member))

/-- The inserted field is found only if its name was not there before. -/
theorem Sorted.lookup_insertField (sorted : Sorted fields) (name : String) (value : Datum)
    (sought : String) :
    (Datum.insertField name value fields).lookup sought =
      (fields.lookup sought).or (List.lookup sought [(name, value)]) := by
  induction fields with
  | nil => rfl
  | cons first rest ih =>
      obtain ⟨other, held⟩ := first
      obtain ⟨least, later⟩ := List.pairwise_cons.mp sorted
      rw [Datum.insertField]
      split
      · next same =>
        subst same
        by_cases found : sought = name
        · subst found
          simp
        · have apart : (sought == name) = false := beq_eq_false_iff_ne.mpr found
          simp [List.lookup_cons, apart]
      · split
        · next before =>
          by_cases found : sought = name
          · subst found
            -- The fields are sorted, so a name that comes before the first is new.
            have absent : ((other, held) :: rest).lookup sought = none := by
              apply lookup_eq_none_of_least
              rw [List.forall_mem_cons]
              exact ⟨before, fun field member => Text.precedes_trans before (least field member)⟩
            rw [absent, List.lookup_cons_self, Option.none_or, List.lookup_cons_self]
          · have apart : (sought == name) = false := beq_eq_false_iff_ne.mpr found
            simp [List.lookup_cons, apart]
        · rw [List.lookup_cons, ih later, List.lookup_cons (k := other)]
          split <;> rfl

/-! ## All fields -/

theorem sorted_canonicalFields (fields : List (String × Datum)) :
    Sorted (canonicalFields fields) := by
  induction fields with
  | nil => exact List.Pairwise.nil
  | cons field rest ih => exact ih.insertField _ _

/-- Under every name stands the last value that the fields had for it. -/
theorem lookup_canonicalFields_last (fields : List (String × Datum)) (name : String) :
    (canonicalFields fields).lookup name = (fields.reverse.lookup name).map canonical := by
  induction fields with
  | nil => rfl
  | cons field rest ih =>
      obtain ⟨other, value⟩ := field
      have single : List.lookup name [(other, value.canonical)] =
          (List.lookup name [(other, value)]).map canonical := by
        rw [List.lookup_cons, List.lookup_cons]
        split <;> rfl
      rw [canonicalFields, (sorted_canonicalFields rest).lookup_insertField, ih, single,
        List.reverse_cons, List.lookup_append, Option.map_or]

theorem exists_of_mem_canonicalFields {field : String × Datum}
    (member : field ∈ canonicalFields fields) :
    ∃ value, (field.1, value) ∈ fields ∧ field.2 = value.canonical := by
  induction fields with
  | nil => cases member
  | cons first rest ih =>
      rcases mem_insertField member with rfl | inside
      · exact ⟨first.2, List.mem_cons_self, rfl⟩
      · obtain ⟨value, listed, same⟩ := ih inside
        exact ⟨value, List.mem_cons_of_mem _ listed, same⟩

theorem Sorted.canonicalFields_eq_self (sorted : Sorted fields)
    (each : ∀ field ∈ fields, field.2.canonical = field.2) : canonicalFields fields = fields := by
  induction fields with
  | nil => rfl
  | cons field rest ih =>
      obtain ⟨least, later⟩ := List.pairwise_cons.mp sorted
      rw [List.forall_mem_cons] at each
      rw [canonicalFields, ih later each.2, each.1, insertField_of_least least]

end Datum

end SurveyCube
