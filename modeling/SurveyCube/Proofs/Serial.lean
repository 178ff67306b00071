import Mathlib.Data.List.Nodup
import SurveyCube.Proofs.Datum
import SurveyCube.Proofs.Words

/-!
# Values are read back from their data

`LawfulSerial` collects what writing a value as a datum promises: the datum
could stand in a document, its depth has a bound that depends on the type
alone, and reading it gives back the value if the numbers of the value fit
their words.

A record is read back field by field; `Datum.fields?_record` says what reading
it by names finds.
-/

namespace SurveyCube

/-- Types whose values are read back from their data. -/
class LawfulSerial (α : Type) [Serial α] [Words α] where
  /-- A bound of the levels of lists and records in the datum of a value. -/
  levels : Nat
  isDocument_toDatum (value : α) : (toDatum value).isDocument = true
  depth_toDatum_le (value : α) : (toDatum value).depth ≤ levels
  inWords_toDatum {value : α} : fitWords value = true → (toDatum value).inWords = true
  ofDatum?_toDatum {value : α} : fitWords value = true → ofDatum? (toDatum value) = some value

export LawfulSerial (isDocument_toDatum depth_toDatum_le inWords_toDatum ofDatum?_toDatum)

namespace LawfulSerial

instance : LawfulSerial Nat where
  levels := 0
  isDocument_toDatum _ := rfl
  depth_toDatum_le _ := Nat.le_refl 0
  inWords_toDatum {n} words := by
    rw [fitWords_nat_iff, wordLimit] at words
    have word : Datum.isWord (n : Int) = true := Datum.isWord_iff.mpr (by omega)
    exact word
  ofDatum?_toDatum {n} words := by
    rw [fitWords_nat_iff] at words
    exact if_pos words

instance : LawfulSerial Int where
  levels := 0
  isDocument_toDatum _ := rfl
  depth_toDatum_le _ := Nat.le_refl 0
  inWords_toDatum {n} words := by
    rw [fitWords_int_iff] at words
    have word : Datum.isWord n = true := Datum.isWord_iff.mpr (by omega)
    exact word
  ofDatum?_toDatum {n} words := by
    rw [fitWords_int_iff] at words
    exact if_pos words

instance : LawfulSerial String where
  levels := 0
  isDocument_toDatum _ := rfl
  depth_toDatum_le _ := Nat.le_refl 0
  inWords_toDatum _ := rfl
  ofDatum?_toDatum _ := rfl

section Lists

variable {α : Type} [Serial α] [Words α] [LawfulSerial α]

theorem mapM_ofDatum?_toDatum {items : List α} (words : fitWords items = true) :
    (items.map toDatum).mapM (ofDatum? (α := α)) = some items := by
  rw [fitWords_list_iff] at words
  induction items with
  | nil => rfl
  | cons item rest ih =>
      have first : ofDatum? (toDatum item) = some item :=
        ofDatum?_toDatum (words item List.mem_cons_self)
      have later := ih fun other member => words other (List.mem_cons_of_mem item member)
      rw [List.map_cons, List.mapM_cons, first, later]
      rfl

instance : LawfulSerial (List α) where
  levels := levels α + 1
  isDocument_toDatum items := by
    change Datum.isDocumentItems (items.map toDatum) = true
    rw [Datum.isDocumentItems_iff, List.forall_mem_map]
    intro item _
    exact isDocument_toDatum item
  depth_toDatum_le items := by
    change Datum.depthItems (items.map toDatum) + 1 ≤ levels α + 1
    rw [Nat.add_le_add_iff_right, Datum.depthItems_le_iff, List.forall_mem_map]
    intro item _
    exact depth_toDatum_le item
  inWords_toDatum {items} words := by
    change Datum.inWordsItems (items.map toDatum) = true
    rw [Datum.inWordsItems_iff, List.forall_mem_map]
    intro item member
    exact inWords_toDatum (fitWords_list_iff.mp words item member)
  ofDatum?_toDatum words :=
    mapM_ofDatum?_toDatum words

end Lists

theorem fitWords_toList {t : Triple} (words : fitWords t = true) :
    fitWords t.toList = true := by
  rw [fitWords_triple_iff] at words
  simp [fitWords_list_iff, Triple.toList, fitWords_nat_iff, words]

instance : LawfulSerial Triple where
  levels := 1
  isDocument_toDatum t := isDocument_toDatum t.toList
  depth_toDatum_le t := depth_toDatum_le t.toList
  inWords_toDatum {t} words := by
    have components : (toDatum t.toList).inWords = true :=
      inWords_toDatum (fitWords_toList words)
    exact components
  ofDatum?_toDatum {t} words := by
    have read := mapM_ofDatum?_toDatum (fitWords_toList words)
    change ((t.toList.map toDatum).mapM (ofDatum? (α := Nat))).bind Triple.ofList? = some t
    rw [read]
    rfl

instance : LawfulSerial (Nat × Nat) where
  levels := 1
  isDocument_toDatum pair := isDocument_toDatum [pair.1, pair.2]
  depth_toDatum_le pair := depth_toDatum_le [pair.1, pair.2]
  inWords_toDatum {pair} words := by
    rw [fitWords_pair_iff] at words
    have both : fitWords [pair.1, pair.2] = true := by
      simp [fitWords_list_iff, fitWords_nat_iff, words]
    have components : (toDatum [pair.1, pair.2]).inWords = true :=
      inWords_toDatum both
    exact components
  ofDatum?_toDatum {pair} words := by
    rw [fitWords_pair_iff] at words
    have first : ofDatum? (toDatum pair.1) = some pair.1 :=
      ofDatum?_toDatum (fitWords_nat_iff.mpr words.1)
    have second : ofDatum? (toDatum pair.2) = some pair.2 :=
      ofDatum?_toDatum (fitWords_nat_iff.mpr words.2)
    change ((ofDatum? (toDatum pair.1)).bind fun x =>
      (ofDatum? (toDatum pair.2)).bind fun y => some (x, y)) = some pair
    rw [first, second]
    rfl

instance : LawfulSerial Function where
  levels := 0
  isDocument_toDatum _ := rfl
  depth_toDatum_le _ := Nat.le_refl 0
  inWords_toDatum _ := rfl
  ofDatum?_toDatum {function} _ := Function.ofName?_name function

end LawfulSerial

/-! ## Records -/

namespace Datum

variable {fields : List (String × Datum)}

theorem isDocument_record (plain : ∀ field ∈ fields, field.2.isDocument = true) :
    (record fields).isDocument = true := by
  rw [isDocument, isDocumentFields_iff]
  exact plain

theorem depth_record_le {bound : Nat} (shallow : ∀ field ∈ fields, field.2.depth ≤ bound) :
    (record fields).depth ≤ bound + 1 := by
  rw [depth, Nat.add_le_add_iff_right, depthFields_le_iff]
  exact shallow

theorem inWords_record (words : ∀ field ∈ fields, field.2.inWords = true) :
    (record fields).inWords = true := by
  rw [inWords, inWordsFields_iff]
  exact words

theorem lookup_spelled (fields : List (String × Datum)) (name : String) :
    (fields.map fun (name, value) => (some name, value)).lookup (some name) =
      fields.lookup name := by
  induction fields with
  | nil => rfl
  | cons field rest ih =>
      obtain ⟨other, value⟩ := field
      simp [List.lookup_cons, ih]

/-- Among distinct names none is given twice. -/
theorem spelled_once (distinct : (fields.map Prod.fst).Nodup) (name : String) :
    ((fields.map fun (name, value) => (some name, value)).filter
      fun field => field.1 = some name).length ≤ 1 := by
  have occurrences : (fields.map Prod.fst).count name ≤ 1 :=
    List.nodup_iff_count_le_one.mp distinct name
  rw [List.count_eq_countP, List.countP_map, List.countP_eq_length_filter] at occurrences
  rw [List.filter_map, List.length_map]
  refine Nat.le_trans (Nat.le_of_eq (congrArg List.length (List.filter_congr ?_))) occurrences
  rintro ⟨other, value⟩ _
  by_cases same : other = name <;> simp [same]

/-- The fields of a record by their names. -/
def Fields.ofRecord (fields : List (String × Datum)) : Fields :=
  fun name => fields.lookup name

/-- Reading a record of distinct names by name finds its fields. -/
theorem fields?_record (names : List String) (distinct : (fields.map Prod.fst).Nodup) :
    (record fields).fields? names = some (Fields.ofRecord fields) := by
  have once :
      (names.all fun name =>
        decide (((fields.map fun (name, value) => (some name, value)).filter
          fun field => field.1 = some name).length ≤ 1)) = true := by
    rw [List.all_eq_true]
    intro name _
    exact decide_eq_true (spelled_once distinct name)
  simp only [fields?, namedFields?, Option.bind_some, Fields.ofNamed?]
  rw [if_pos once]
  simp only [lookup_spelled]
  rfl

theorem flatFields?_record (names : List String) (distinct : (fields.map Prod.fst).Nodup) :
    (record fields).flatFields? names = some (Fields.ofRecord fields) :=
  fields?_record names distinct

theorem Fields.required_ofRecord
    {α : Type} [Serial α] (fields : List (String × Datum)) (name : String) :
    (Fields.ofRecord fields).required (α := α) name = (fields.lookup name).bind ofDatum? :=
  rfl

end Datum

namespace LawfulSerial

variable {α : Type} [Serial α] [Words α] [LawfulSerial α]

theorem depth_toDatum_le_of {bound : Nat} (enough : levels α ≤ bound) (value : α) :
    (toDatum value).depth ≤ bound :=
  Nat.le_trans (depth_toDatum_le value) enough

instance : LawfulSerial TaskBase where
  levels := 2
  isDocument_toDatum base := by
    apply Datum.isDocument_record
    simp [isDocument_toDatum]
  depth_toDatum_le base := by
    apply Datum.depth_record_le
    simp (disch := decide) [depth_toDatum_le_of]
  inWords_toDatum {base} words := by
    obtain ⟨shape, cubeShape⟩ := TaskBase.fitWords_iff.mp words
    apply Datum.inWords_record
    simp [inWords_toDatum, shape, cubeShape]
  ofDatum?_toDatum {base} words := by
    obtain ⟨shape, cubeShape⟩ := TaskBase.fitWords_iff.mp words
    rw [show toDatum base = Datum.record _ from rfl]
    simp only [ofDatum?]
    rw [Datum.fields?_record _ (by simp)]
    simp [Datum.Fields.required_ofRecord, List.lookup_cons, ofDatum?_toDatum, shape, cubeShape]

instance : LawfulSerial SliceTask where
  levels := 3
  isDocument_toDatum task := by
    apply Datum.isDocument_record
    simp [isDocument_toDatum]
  depth_toDatum_le task := by
    apply Datum.depth_record_le
    simp (disch := decide) [depth_toDatum_le_of]
  inWords_toDatum {task} words := by
    obtain ⟨base, dim, idx, ids⟩ := SliceTask.fitWords_iff.mp words
    apply Datum.inWords_record
    simp [inWords_toDatum, base, dim, idx, ids]
  ofDatum?_toDatum {task} words := by
    obtain ⟨base, dim, idx, ids⟩ := SliceTask.fitWords_iff.mp words
    rw [show toDatum task = Datum.record _ from rfl]
    simp only [ofDatum?]
    rw [Datum.fields?_record _ (by simp)]
    simp [Datum.Fields.required_ofRecord, List.lookup_cons, ofDatum?_toDatum, base, dim, idx, ids]

instance : LawfulSerial Single where
  levels := 3
  isDocument_toDatum single := by
    apply Datum.isDocument_record
    simp [isDocument_toDatum]
  depth_toDatum_le single := by
    apply Datum.depth_record_le
    simp (disch := decide) [depth_toDatum_le_of]
  inWords_toDatum {single} words := by
    obtain ⟨id, offset, coordinates⟩ := Single.fitWords_iff.mp words
    apply Datum.inWords_record
    simp [inWords_toDatum, id, offset, coordinates]
  ofDatum?_toDatum {single} words := by
    obtain ⟨id, offset, coordinates⟩ := Single.fitWords_iff.mp words
    rw [show toDatum single = Datum.record _ from rfl]
    simp only [ofDatum?]
    rw [Datum.fields?_record _ (by simp)]
    simp [Datum.Fields.required_ofRecord, List.lookup_cons, ofDatum?_toDatum, id, offset,
      coordinates]

instance : LawfulSerial CurtainTask where
  levels := 5
  isDocument_toDatum task := by
    apply Datum.isDocument_record
    simp [isDocument_toDatum]
  depth_toDatum_le task := by
    apply Datum.depth_record_le
    simp (disch := decide) [depth_toDatum_le_of]
  inWords_toDatum {task} words := by
    obtain ⟨base, ids⟩ := CurtainTask.fitWords_iff.mp words
    apply Datum.inWords_record
    simp [inWords_toDatum, base, ids]
  ofDatum?_toDatum {task} words := by
    obtain ⟨base, ids⟩ := CurtainTask.fitWords_iff.mp words
    rw [show toDatum task = Datum.record _ from rfl]
    simp only [ofDatum?]
    rw [Datum.fields?_record _ (by simp)]
    simp [Datum.Fields.required_ofRecord, List.lookup_cons, ofDatum?_toDatum, base, ids]

instance : LawfulSerial ProcessHeader where
  levels := 2
  isDocument_toDatum header := by
    apply Datum.isDocument_record
    simp [isDocument_toDatum]
  depth_toDatum_le header := by
    apply Datum.depth_record_le
    simp (disch := decide) [depth_toDatum_le_of]
  inWords_toDatum {header} words := by
    obtain ⟨bundles, dims, index, shapes⟩ := ProcessHeader.fitWords_iff.mp words
    apply Datum.inWords_record
    simp [inWords_toDatum, bundles, dims, index, shapes]
  ofDatum?_toDatum {header} words := by
    obtain ⟨bundles, dims, index, shapes⟩ := ProcessHeader.fitWords_iff.mp words
    rw [show toDatum header = Datum.record _ from rfl]
    simp only [ofDatum?]
    rw [Datum.fields?_record _ (by simp)]
    simp [Datum.Fields.required_ofRecord, List.lookup_cons, ofDatum?_toDatum, bundles, dims, index,
      shapes]

end LawfulSerial

end SurveyCube
