import SurveyCube.Proofs.Canonical

/-!
# Values with plain data

`PlainSerial` collects the types whose values are written as plain data, so that
their documents are read back.  Manifests are read back from their data as well,
although some of their fields may be absent.
-/

namespace SurveyCube

/-- Types whose values have plain data if their numbers fit machine words. -/
class PlainSerial (α : Type) [Serial α] [Words α] : Prop where
  isPlain_toDatum {value : α} : fitWords value = true → (toDatum value).isPlain = true

export PlainSerial (isPlain_toDatum)

namespace PlainSerial

instance : PlainSerial Nat where
  isPlain_toDatum {n} words := by
    have stored : (toDatum n).inWords = true := inWords_toDatum words
    exact Datum.isPlain_int_of_inWords stored

instance : PlainSerial Int where
  isPlain_toDatum {n} words := by
    have stored : (toDatum n).inWords = true := inWords_toDatum words
    exact Datum.isPlain_int_of_inWords stored

instance : PlainSerial String where
  isPlain_toDatum _ := rfl

instance : PlainSerial Function where
  isPlain_toDatum _ := rfl

instance {α : Type} [Serial α] [Words α] [PlainSerial α] : PlainSerial (List α) where
  isPlain_toDatum {items} words := by
    change (Datum.list (items.map toDatum)).isPlain = true
    rw [Datum.isPlain_list_iff, List.forall_mem_map]
    intro item member
    exact isPlain_toDatum (fitWords_list_iff.mp words item member)

instance : PlainSerial Triple where
  isPlain_toDatum {t} words := by
    have components : (toDatum t.toList).isPlain = true :=
      isPlain_toDatum (LawfulSerial.fitWords_toList words)
    exact components

end PlainSerial

namespace Datum

theorem readable_of_isPlain {datum : Datum} (plain : datum.isPlain = true) :
    datum.readable = true := by
  induction datum using Datum.induction with
  | list items ih =>
      rw [isPlain_list_iff] at plain
      rw [readable, readableItems_iff]
      exact fun item member => ih item member (plain item member)
  | record fields ih =>
      rw [isPlain_record_iff] at plain
      rw [readable, readableFields_iff]
      exact fun field member => ih field member (plain.2 field member)
  | null | bool _ | int _ | text _ => rfl
  | real _ | bytes _ | table _ | foreign | unreadable => cases plain

theorem isPlain_record {fields : List (String × Datum)} (distinct : (fields.map Prod.fst).Nodup)
    (plain : ∀ field ∈ fields, field.2.isPlain = true) : (record fields).isPlain = true :=
  isPlain_record_iff.mpr ⟨distinct, plain⟩

theorem Fields.orElse_ofRecord {α : Type} [Serial α] (fields : List (String × Datum))
    (name : String) (absent : α) {datum : Datum} (found : fields.lookup name = some datum) :
    (Fields.ofRecord fields).orElse name absent = ofDatum? datum := by
  rw [orElse, ofRecord, found]

end Datum

theorem Manifest.fitWords_lineNumbers {manifest : Manifest} (words : fitWords manifest = true) :
    fitWords manifest.lineNumbers = true :=
  fitWords_list_iff.mpr fun lines member =>
    ((Manifest.fitWords_iff.mp words).2.2.2 lines member).2

namespace LawfulSerial

instance : LawfulSerial VolumeDesc where
  levels := 3
  isDocument_toDatum volume := by
    apply Datum.isDocument_record
    simp [isDocument_toDatum]
  depth_toDatum_le volume := by
    apply Datum.depth_record_le
    simp (disch := decide) [depth_toDatum_le_of]
  inWords_toDatum {volume} words := by
    have shapes : fitWords volume.shapes = true := words
    apply Datum.inWords_record
    simp [inWords_toDatum, shapes]
  ofDatum?_toDatum {volume} words := by
    have shapes : fitWords volume.shapes = true := words
    rw [show toDatum volume = Datum.record _ from rfl]
    simp only [ofDatum?]
    rw [Datum.fields?_record _ (by simp)]
    simp [Datum.Fields.required_ofRecord, List.lookup_cons, ofDatum?_toDatum, shapes]

instance : LawfulSerial AttributeDesc where
  levels := 3
  isDocument_toDatum desc := by
    apply Datum.isDocument_record
    simp [isDocument_toDatum]
  depth_toDatum_le desc := by
    apply Datum.depth_record_le
    simp (disch := decide) [depth_toDatum_le_of]
  inWords_toDatum {desc} words := by
    have shapes : fitWords desc.shapes = true := words
    apply Datum.inWords_record
    simp [inWords_toDatum, shapes]
  ofDatum?_toDatum {desc} words := by
    have shapes : fitWords desc.shapes = true := words
    rw [show toDatum desc = Datum.record _ from rfl]
    simp only [ofDatum?]
    rw [Datum.fields?_record _ (by simp)]
    simp [Datum.Fields.required_ofRecord, Datum.Fields.orElse_ofRecord, List.lookup_cons,
      ofDatum?_toDatum, shapes]

instance : LawfulSerial Manifest where
  levels := 5
  isDocument_toDatum manifest := by
    apply Datum.isDocument_record
    simp [isDocument_toDatum]
  depth_toDatum_le manifest := by
    apply Datum.depth_record_le
    simp (disch := decide) [depth_toDatum_le_of]
  inWords_toDatum {manifest} words := by
    obtain ⟨version, data, attributes, _⟩ := Manifest.fitWords_iff.mp words
    have lines := Manifest.fitWords_lineNumbers words
    apply Datum.inWords_record
    simp [inWords_toDatum, version, data, attributes, lines]
  ofDatum?_toDatum {manifest} words := by
    obtain ⟨version, data, attributes, _⟩ := Manifest.fitWords_iff.mp words
    have lines := Manifest.fitWords_lineNumbers words
    rw [show toDatum manifest = Datum.record _ from rfl]
    simp only [ofDatum?]
    rw [Datum.fields?_record _ (by simp)]
    simp [Datum.Fields.required_ofRecord, Datum.Fields.orElse_ofRecord, List.lookup_cons,
      ofDatum?_toDatum, version, data, attributes, lines]

end LawfulSerial

namespace PlainSerial

instance : PlainSerial VolumeDesc where
  isPlain_toDatum {volume} words := by
    have shapes : fitWords volume.shapes = true := words
    apply Datum.isPlain_record (by simp)
    simp [isPlain_toDatum, shapes]

instance : PlainSerial AttributeDesc where
  isPlain_toDatum {desc} words := by
    have shapes : fitWords desc.shapes = true := words
    apply Datum.isPlain_record (by simp)
    simp [isPlain_toDatum, shapes]

instance : PlainSerial Manifest where
  isPlain_toDatum {manifest} words := by
    obtain ⟨version, data, attributes, _⟩ := Manifest.fitWords_iff.mp words
    have lines := Manifest.fitWords_lineNumbers words
    apply Datum.isPlain_record (by simp)
    simp [isPlain_toDatum, version, data, attributes, lines]

end PlainSerial

end SurveyCube
