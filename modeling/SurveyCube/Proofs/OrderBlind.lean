import SurveyCube.Proofs.Canonical
import SurveyCube.Proofs.Query

/-!
# Values that do not depend on the order of fields

`OrderBlind` collects the types whose values are read from the canonical form of
a datum exactly if they are read from the datum itself.  This takes records that
repeat no name; everything else may be wrong with the datum, for then it has no
value in either form.

`Datum.read_canonical` says what a reader has to care about.  A record in list
form keeps its declared order, a record with names is read through
`Datum.Fields`, and nobody has a use for doubles.
-/

namespace SurveyCube

/-- Types whose values do not depend on the order of fields. -/
class OrderBlind (α : Type) [Serial α] : Prop where
  ofDatum?_canonical {datum : Datum} :
    datum.namesDistinct = true → (ofDatum? datum.canonical : Option α) = ofDatum? datum

export OrderBlind (ofDatum?_canonical)

namespace Datum

theorem read_canonical {α : Type} (read? : Datum → Option α)
    (lists : ∀ items, (∀ item ∈ items, item.namesDistinct = true) →
      read? (.list (items.map canonical)) = read? (.list items))
    (records : ∀ fields, (record fields).namesDistinct = true →
      read? (.record (canonicalFields fields)) = read? (.record fields))
    (reals : ∀ value, read? (.real value) = read? .null)
    {datum : Datum} (distinct : datum.namesDistinct = true) :
    read? datum.canonical = read? datum := by
  cases datum with
  | list items =>
      rw [canonical, canonicalItems_eq_map]
      exact lists items (namesDistinct_list_iff.mp distinct)
  | record fields => exact records fields distinct
  | real value =>
      rw [canonical]
      split
      · rfl
      · exact (reals value).symm
  | _ => rfl

end Datum

namespace OrderBlind

instance : OrderBlind Nat where
  ofDatum?_canonical :=
    Datum.read_canonical ofDatum? (fun _ _ => rfl) (fun _ _ => rfl) fun _ => rfl

instance : OrderBlind Int where
  ofDatum?_canonical :=
    Datum.read_canonical ofDatum? (fun _ _ => rfl) (fun _ _ => rfl) fun _ => rfl

instance : OrderBlind String where
  ofDatum?_canonical :=
    Datum.read_canonical ofDatum? (fun _ _ => rfl) (fun _ _ => rfl) fun _ => rfl

variable {α : Type} [Serial α] [OrderBlind α]

theorem mapM_ofDatum?_canonical {items : List Datum}
    (distinct : ∀ item ∈ items, item.namesDistinct = true) :
    (items.map Datum.canonical).mapM (ofDatum? (α := α)) = items.mapM ofDatum? := by
  induction items with
  | nil => rfl
  | cons item rest ih =>
      rw [List.forall_mem_cons] at distinct
      rw [List.map_cons, List.mapM_cons, List.mapM_cons, ih distinct.2,
        ofDatum?_canonical distinct.1]

instance : OrderBlind (List α) where
  ofDatum?_canonical := by
    apply Datum.read_canonical ofDatum?
    case records => exact fun _ _ => rfl
    case reals => exact fun _ => rfl
    intro items distinct
    exact mapM_ofDatum?_canonical distinct

instance : OrderBlind Triple where
  ofDatum?_canonical := by
    apply Datum.read_canonical ofDatum?
    case records => exact fun _ _ => rfl
    case reals => exact fun _ => rfl
    intro items distinct
    have same := mapM_ofDatum?_canonical (α := Nat) distinct
    simp only [ofDatum?, Datum.tuple?, List.length_map]
    split
    · exact congrArg (fun values => Option.bind values Triple.ofList?) same
    · rfl

end OrderBlind

/-! ## Fields -/

namespace Datum

namespace Fields

/-- The same fields, each in canonical form. -/
def canonical (fields : Fields) : Fields :=
  fun name => (fields name).map Datum.canonical

/-- No record in the fields repeats a name. -/
def NamesDistinct (fields : Fields) : Prop :=
  ∀ name datum, fields name = some datum → datum.namesDistinct = true

variable {fields : Fields} {α : Type} [Serial α] [OrderBlind α]

theorem required_canonical (distinct : fields.NamesDistinct) (name : String) :
    fields.canonical.required (α := α) name = fields.required name := by
  rw [required, required, canonical]
  cases found : fields name with
  | none => rfl
  | some datum => exact ofDatum?_canonical (distinct name datum found)

theorem orElse_canonical (distinct : fields.NamesDistinct) (name : String) (absent : α) :
    fields.canonical.orElse name absent = fields.orElse name absent := by
  rw [orElse, orElse, canonical]
  cases found : fields name with
  | none => rfl
  | some datum => exact ofDatum?_canonical (distinct name datum found)

theorem canonical_held (fields : Fields) : fields.held.canonical = fields.canonical.held := by
  funext name
  simp only [canonical, held, Option.map_map]
  exact congrArg (fun f => (fields name).map f) (funext Datum.canonical_held)

theorem namesDistinct_held (distinct : fields.NamesDistinct) : fields.held.NamesDistinct := by
  intro name datum found
  obtain ⟨original, stored, rfl⟩ := Option.map_eq_some_iff.mp found
  exact Datum.namesDistinct_held (distinct name original stored)

theorem namesDistinct_ofRecord {all : List (String × Datum)}
    (distinct : ∀ field ∈ all, field.2.namesDistinct = true) : (ofRecord all).NamesDistinct :=
  fun name datum found => distinct (name, datum) (mem_of_lookup found)

theorem canonical_ofRecord (all : List (String × Datum)) :
    (ofRecord all).canonical = ofRecord (withCanonicalValues all) :=
  funext fun name => (lookup_withCanonicalValues all name).symm

end Fields

section Records

variable {β : Type} {read? : Fields → Option β} {datum : Datum}
  (blind : ∀ fields : Fields, fields.NamesDistinct → read? fields.canonical = read? fields)

include blind

theorem read_canonicalFields {fields : List (String × Datum)}
    (distinct : (record fields).namesDistinct = true) :
    read? (Fields.ofRecord (canonicalFields fields)) = read? (Fields.ofRecord fields) := by
  rw [namesDistinct_record_iff] at distinct
  have sorted : Fields.ofRecord (canonicalFields fields) = (Fields.ofRecord fields).canonical :=
    funext (lookup_canonicalFields distinct.1)
  rw [sorted]
  exact blind _ (Fields.namesDistinct_ofRecord distinct.2)

theorem read_canonicalItems (names : List String) {items : List Datum}
    (distinct : ∀ item ∈ items, item.namesDistinct = true) :
    read? (Fields.ofRecord (names.zip (items.map canonical))) =
      read? (Fields.ofRecord (names.zip items)) := by
  have values : names.zip (items.map canonical) = withCanonicalValues (names.zip items) :=
    List.zip_map_right
  rw [values, ← Fields.canonical_ofRecord]
  apply blind
  apply Fields.namesDistinct_ofRecord
  intro field member
  exact distinct field.2 (List.of_mem_zip member).2

theorem fields?_bind_canonical (names : List String) (distinct : datum.namesDistinct = true) :
    (datum.canonical.fields? names).bind read? = (datum.fields? names).bind read? := by
  refine read_canonical (fun datum => (datum.fields? names).bind read?) ?_ ?_ ?_ distinct
  · -- In list form the names come from the declaration, not from the datum.
    intro items distinct
    simp only [fields?, leading?, List.length_map]
    split
    · exact read_canonicalItems blind names distinct
    · rfl
  · intro fields distinct
    have once := (namesDistinct_record_iff.mp distinct).1
    rw [fields?_record names (names_canonicalFields_nodup _), fields?_record names once]
    exact read_canonicalFields blind distinct
  · exact fun _ => rfl

theorem flatFields?_bind_canonical (names : List String) (distinct : datum.namesDistinct = true) :
    (datum.canonical.flatFields? names).bind read? = (datum.flatFields? names).bind read? := by
  refine read_canonical (fun datum => (datum.flatFields? names).bind read?) ?_ ?_ ?_ distinct
  · exact fun _ _ => rfl
  · intro fields distinct
    have once := (namesDistinct_record_iff.mp distinct).1
    rw [flatFields?_record names (names_canonicalFields_nodup _), flatFields?_record names once]
    exact read_canonicalFields blind distinct
  · exact fun _ => rfl

end Records

end Datum

/-! ## Manifests and queries -/

namespace OrderBlind

open Datum.Fields (required_canonical orElse_canonical)

instance : OrderBlind VolumeDesc where
  ofDatum?_canonical distinct := by
    apply Datum.fields?_bind_canonical _ _ distinct
    intro fields distinct
    simp only [required_canonical distinct]

instance : OrderBlind AttributeDesc where
  ofDatum?_canonical distinct := by
    apply Datum.fields?_bind_canonical _ _ distinct
    intro fields distinct
    simp only [required_canonical distinct, orElse_canonical distinct]

instance : OrderBlind Manifest where
  ofDatum?_canonical distinct := by
    apply Datum.fields?_bind_canonical _ _ distinct
    intro fields distinct
    simp only [required_canonical distinct, orElse_canonical distinct]

theorem ofFields?_canonical {fields : Datum.Fields} (distinct : fields.NamesDistinct) :
    QueryBase.ofFields? fields.canonical = QueryBase.ofFields? fields := by
  simp only [QueryBase.ofFields?, required_canonical distinct, orElse_canonical distinct]

theorem ofFields?_held_canonical {fields : Datum.Fields} (distinct : fields.NamesDistinct) :
    QueryBase.ofFields? fields.canonical.held = QueryBase.ofFields? fields.held := by
  rw [← Datum.Fields.canonical_held]
  exact ofFields?_canonical (Datum.Fields.namesDistinct_held distinct)

theorem readFlattened_canonical
    {α : Type} {next : Datum.Fields → QueryBase → Option α} {datum : Datum}
    (blind : ∀ fields : Datum.Fields, fields.NamesDistinct → ∀ base,
      next fields.canonical base = next fields base)
    (names : List String) (distinct : datum.namesDistinct = true) :
    datum.canonical.readFlattened names next = datum.readFlattened names next := by
  rw [Datum.readFlattened, Datum.readFlattened, Datum.readable_canonical distinct]
  congr 1
  funext _
  apply Datum.flatFields?_bind_canonical _ names distinct
  intro fields distinct
  simp only [ofFields?_held_canonical distinct, blind fields distinct]

instance : OrderBlind SliceQuery where
  ofDatum?_canonical distinct := by
    rw [SliceQuery.ofDatum?_eq, SliceQuery.ofDatum?_eq]
    apply readFlattened_canonical _ _ distinct
    intro fields distinct base
    simp only [required_canonical distinct]

instance : OrderBlind CurtainQuery where
  ofDatum?_canonical distinct := by
    rw [CurtainQuery.ofDatum?_eq, CurtainQuery.ofDatum?_eq]
    apply readFlattened_canonical _ _ distinct
    intro fields distinct base
    simp only [required_canonical distinct]

end OrderBlind

end SurveyCube
