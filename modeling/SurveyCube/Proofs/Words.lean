import SurveyCube.Header

/-!
# Values in machine words

The library computes with numbers of any size, while a value that a service
holds keeps each of its numbers in a machine word: line numbers and the index
of a header in signed words, all others in words without a sign.

`fitWords` says that the numbers of a value fit.  The number of lines along an
axis is the extent of the cube, and tasks and headers repeat it as a number, so
a manifest and a polyline keep the lengths of their lists in words as well.
-/

namespace SurveyCube

/-- Types whose values hold numbers in machine words. -/
class Words (α : Type) where
  /-- Every number of the value fits its word. -/
  fitWords : α → Bool

export Words (fitWords)

/-- The length of a list is a number that a signed word holds. -/
def fitsLength {α : Type} (items : List α) : Bool :=
  decide (items.length < 2 ^ 63)

instance : Words Nat where
  fitWords n := decide (n < wordLimit)

instance : Words Int where
  fitWords n := decide (-2 ^ 63 ≤ n ∧ n < 2 ^ 63)

instance : Words String where
  fitWords _ := true

instance {α : Type} [Words α] : Words (List α) where
  fitWords items := items.all fitWords

instance : Words Triple where
  fitWords t := fitWords t.x && fitWords t.y && fitWords t.z

instance : Words (Nat × Nat) where
  fitWords pair := fitWords pair.1 && fitWords pair.2

instance : Words Function where
  fitWords _ := true

/-! ## Queries -/

instance : Words VolumeDesc where
  fitWords volume := fitWords volume.shapes

instance : Words AttributeDesc where
  fitWords desc := fitWords desc.shapes

instance : Words Manifest where
  fitWords manifest :=
    fitWords manifest.formatVersion && fitWords manifest.data && fitWords manifest.attributes &&
      manifest.lineNumbers.all fun lines => fitsLength lines && fitWords lines

instance : Words QueryBase where
  fitWords base := fitWords base.manifest

instance : Words SliceQuery where
  fitWords query := fitWords query.base && fitWords query.dim && fitWords query.idx

instance : Words CurtainQuery where
  fitWords query :=
    fitWords query.base && fitsLength query.dim0s && fitsLength query.dim1s &&
      fitWords query.dim0s && fitWords query.dim1s

/-! ## Responses -/

instance : Words TaskBase where
  fitWords base := fitWords base.shape && fitWords base.cubeShape

instance : Words SliceTask where
  fitWords task :=
    fitWords task.base && fitWords task.dim && fitWords task.idx && fitWords task.ids

instance : Words Single where
  fitWords single :=
    fitWords single.id && fitWords single.offset && fitWords single.coordinates

instance : Words CurtainTask where
  fitWords task := fitWords task.base && fitWords task.ids

instance : Words ProcessHeader where
  fitWords header :=
    fitWords header.bundles && fitWords header.dims && fitWords header.index &&
      fitWords header.shapes

/-! ## What fitting means -/

theorem fitsLength_iff {α : Type} {items : List α} :
    fitsLength items = true ↔ items.length < 2 ^ 63 :=
  decide_eq_true_iff

theorem fitWords_nat_iff {n : Nat} : fitWords n = true ↔ n < wordLimit :=
  decide_eq_true_iff

theorem fitWords_int_iff {n : Int} : fitWords n = true ↔ -2 ^ 63 ≤ n ∧ n < 2 ^ 63 :=
  decide_eq_true_iff

theorem Manifest.fitWords_iff {manifest : Manifest} :
    fitWords manifest = true ↔
      fitWords manifest.formatVersion = true ∧ fitWords manifest.data = true ∧
        fitWords manifest.attributes = true ∧
          ∀ lines ∈ manifest.lineNumbers, fitsLength lines = true ∧ fitWords lines = true := by
  change (fitWords manifest.formatVersion && fitWords manifest.data &&
    fitWords manifest.attributes && manifest.lineNumbers.all _) = true ↔ _
  simp only [Bool.and_eq_true, List.all_eq_true, and_assoc]

theorem SliceQuery.fitWords_iff {query : SliceQuery} :
    fitWords query = true ↔
      fitWords query.base.manifest = true ∧ fitWords query.dim = true ∧
        fitWords query.idx = true := by
  change (fitWords query.base.manifest && fitWords query.dim && fitWords query.idx) = true ↔ _
  rw [Bool.and_eq_true, Bool.and_eq_true, and_assoc]

theorem CurtainQuery.fitWords_iff {query : CurtainQuery} :
    fitWords query = true ↔
      fitWords query.base.manifest = true ∧ fitsLength query.dim0s = true ∧
        fitsLength query.dim1s = true ∧ fitWords query.dim0s = true ∧
          fitWords query.dim1s = true := by
  change (fitWords query.base.manifest && fitsLength query.dim0s && fitsLength query.dim1s &&
    fitWords query.dim0s && fitWords query.dim1s) = true ↔ _
  simp only [Bool.and_eq_true, and_assoc]

theorem TaskBase.fitWords_iff {base : TaskBase} :
    fitWords base = true ↔ fitWords base.shape = true ∧ fitWords base.cubeShape = true := by
  change (fitWords base.shape && fitWords base.cubeShape) = true ↔ _
  rw [Bool.and_eq_true]

theorem SliceTask.fitWords_iff {task : SliceTask} :
    fitWords task = true ↔
      fitWords task.base = true ∧ fitWords task.dim = true ∧ fitWords task.idx = true ∧
        fitWords task.ids = true := by
  change (fitWords task.base && fitWords task.dim && fitWords task.idx && fitWords task.ids) =
    true ↔ _
  rw [Bool.and_eq_true, Bool.and_eq_true, Bool.and_eq_true, and_assoc, and_assoc]

theorem Single.fitWords_iff {single : Single} :
    fitWords single = true ↔
      fitWords single.id = true ∧ fitWords single.offset = true ∧
        fitWords single.coordinates = true := by
  change (fitWords single.id && fitWords single.offset && fitWords single.coordinates) = true ↔ _
  rw [Bool.and_eq_true, Bool.and_eq_true, and_assoc]

theorem CurtainTask.fitWords_iff {task : CurtainTask} :
    fitWords task = true ↔ fitWords task.base = true ∧ fitWords task.ids = true := by
  change (fitWords task.base && fitWords task.ids) = true ↔ _
  rw [Bool.and_eq_true]

theorem ProcessHeader.fitWords_iff {header : ProcessHeader} :
    fitWords header = true ↔
      fitWords header.bundles = true ∧ fitWords header.dims = true ∧
        fitWords header.index = true ∧ fitWords header.shapes = true := by
  change (fitWords header.bundles && fitWords header.dims && fitWords header.index &&
    fitWords header.shapes) = true ↔ _
  rw [Bool.and_eq_true, Bool.and_eq_true, Bool.and_eq_true, and_assoc, and_assoc]

@[simp]
theorem fitWords_string (text : String) : fitWords text = true := rfl

@[simp]
theorem fitWords_function (function : Function) : fitWords function = true := rfl

theorem fitWords_list_iff {α : Type} [Words α] {items : List α} :
    fitWords items = true ↔ ∀ item ∈ items, fitWords item = true :=
  List.all_eq_true

@[simp]
theorem fitWords_texts (texts : List String) : fitWords texts = true :=
  fitWords_list_iff.mpr fun _ _ => rfl

theorem fitWords_triple_iff {t : Triple} :
    fitWords t = true ↔ t.x < wordLimit ∧ t.y < wordLimit ∧ t.z < wordLimit := by
  change (fitWords t.x && fitWords t.y && fitWords t.z) = true ↔ _
  rw [Bool.and_eq_true, Bool.and_eq_true, fitWords_nat_iff, fitWords_nat_iff, fitWords_nat_iff,
    and_assoc]

theorem fitWords_pair_iff {pair : Nat × Nat} :
    fitWords pair = true ↔ pair.1 < wordLimit ∧ pair.2 < wordLimit := by
  change (fitWords pair.1 && fitWords pair.2) = true ↔ _
  rw [Bool.and_eq_true, fitWords_nat_iff, fitWords_nat_iff]

end SurveyCube
