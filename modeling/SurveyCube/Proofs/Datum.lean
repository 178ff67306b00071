import SurveyCube.Datum.Basic

/-!
# Measures of data

What a format can carry depends on three measures of a datum.

* `Datum.depth` counts the levels of lists and records.
* `Datum.inWords` says that every number is a machine word, with or without a
  sign.
* `Datum.isShort` says that the length of every text, list and record is a
  word of four bytes.

Each is computed along the datum, and a list has it exactly when its items do.

`Datum.all` asks a question of the datum and of everything inside, and
`Datum.induction` is induction over lists and records of any length.
-/

namespace SurveyCube.Datum

/-- The lengths that a word of four bytes holds. -/
def lengthLimit : Nat := 2 ^ 32

/-- The number is a machine word, with or without a sign. -/
def isWord (n : Int) : Bool :=
  decide (-2 ^ 63 ≤ n ∧ n < 2 ^ 64)

theorem isWord_iff {n : Int} : isWord n = true ↔ -2 ^ 63 ≤ n ∧ n < 2 ^ 64 :=
  decide_eq_true_iff

mutual

/-- The number of levels of lists and records. -/
def depth : Datum → Nat
  | .list items => depthItems items + 1
  | .record fields => depthFields fields + 1
  | _ => 0

/-- The greatest depth of an item. -/
def depthItems : List Datum → Nat
  | [] => 0
  | item :: rest => max (depth item) (depthItems rest)

/-- The greatest depth of a field. -/
def depthFields : List (String × Datum) → Nat
  | [] => 0
  | (_, value) :: rest => max (depth value) (depthFields rest)

end

mutual

/-- Every number is a machine word. -/
def inWords : Datum → Bool
  | .int value => isWord value
  | .list items => inWordsItems items
  | .record fields => inWordsFields fields
  | _ => true

/-- Every number of the items is a machine word. -/
def inWordsItems : List Datum → Bool
  | [] => true
  | item :: rest => inWords item && inWordsItems rest

/-- Every number of the fields is a machine word. -/
def inWordsFields : List (String × Datum) → Bool
  | [] => true
  | (_, value) :: rest => inWords value && inWordsFields rest

end

/-- The length of a text in bytes is below the limit. -/
def isShortText (text : String) : Bool :=
  decide ((Text.bytes text).length < lengthLimit)

theorem isShortText_iff {text : String} :
    isShortText text = true ↔ (Text.bytes text).length < 2 ^ 32 :=
  decide_eq_true_iff

mutual

/-- The length of every text, list and record is below the limit. -/
def isShort : Datum → Bool
  | .text value => isShortText value
  | .list items => decide (items.length < lengthLimit) && isShortItems items
  | .record fields => decide (fields.length < lengthLimit) && isShortFields fields
  | _ => true

/-- Every item is short. -/
def isShortItems : List Datum → Bool
  | [] => true
  | item :: rest => isShort item && isShortItems rest

/-- Every field is short, and so is its name. -/
def isShortFields : List (String × Datum) → Bool
  | [] => true
  | (name, value) :: rest => isShortText name && (isShort value && isShortFields rest)

end

theorem depthItems_le_iff {items : List Datum} {bound : Nat} :
    depthItems items ≤ bound ↔ ∀ item ∈ items, item.depth ≤ bound := by
  induction items with
  | nil =>
      simp [depthItems]
  | cons item rest ih =>
      rw [depthItems, Nat.max_le, ih, List.forall_mem_cons]

theorem inWordsItems_iff {items : List Datum} :
    inWordsItems items = true ↔ ∀ item ∈ items, item.inWords = true := by
  induction items with
  | nil =>
      simp [inWordsItems]
  | cons item rest ih =>
      rw [inWordsItems, Bool.and_eq_true, ih, List.forall_mem_cons]

theorem isShortItems_iff {items : List Datum} :
    isShortItems items = true ↔ ∀ item ∈ items, item.isShort = true := by
  induction items with
  | nil =>
      simp [isShortItems]
  | cons item rest ih =>
      rw [isShortItems, Bool.and_eq_true, ih, List.forall_mem_cons]

theorem isDocumentItems_iff {items : List Datum} :
    isDocumentItems items = true ↔ ∀ item ∈ items, item.isDocument = true := by
  induction items with
  | nil =>
      simp [isDocumentItems]
  | cons item rest ih =>
      rw [isDocumentItems, Bool.and_eq_true, ih, List.forall_mem_cons]

theorem depthFields_le_iff {fields : List (String × Datum)} {bound : Nat} :
    depthFields fields ≤ bound ↔ ∀ field ∈ fields, field.2.depth ≤ bound := by
  induction fields with
  | nil =>
      simp [depthFields]
  | cons field rest ih =>
      rw [depthFields, Nat.max_le, ih, List.forall_mem_cons]

theorem inWordsFields_iff {fields : List (String × Datum)} :
    inWordsFields fields = true ↔ ∀ field ∈ fields, field.2.inWords = true := by
  induction fields with
  | nil =>
      simp [inWordsFields]
  | cons field rest ih =>
      rw [inWordsFields, Bool.and_eq_true, ih, List.forall_mem_cons]

theorem isDocumentFields_iff {fields : List (String × Datum)} :
    isDocumentFields fields = true ↔ ∀ field ∈ fields, field.2.isDocument = true := by
  induction fields with
  | nil =>
      simp [isDocumentFields]
  | cons field rest ih =>
      rw [isDocumentFields, Bool.and_eq_true, ih, List.forall_mem_cons]

/-! ## Properties of everything inside -/

mutual

/-- The datum has a property, and so has everything inside. -/
def all (p : Datum → Bool) : Datum → Bool
  | .list items => p (.list items) && allItems p items
  | .record fields => p (.record fields) && allFields p fields
  | datum => p datum

/-- Every item has a property, and so has everything inside. -/
def allItems (p : Datum → Bool) : List Datum → Bool
  | [] => true
  | item :: rest => all p item && allItems p rest

/-- Every field has a property, and so has everything inside. -/
def allFields (p : Datum → Bool) : List (String × Datum) → Bool
  | [] => true
  | (_, value) :: rest => all p value && allFields p rest

end

section Induction

variable {motive : Datum → Prop}
  (list : ∀ items, (∀ item ∈ items, motive item) → motive (.list items))
  (record : ∀ fields, (∀ field ∈ fields, motive field.2) → motive (.record fields))
  (null : motive .null) (bool : ∀ value, motive (.bool value))
  (int : ∀ value, motive (.int value)) (real : ∀ value, motive (.real value))
  (text : ∀ value, motive (.text value)) (bytes : ∀ raw, motive (.bytes raw))
  (table : ∀ entries, motive (.table entries)) (foreign : motive .foreign)
  (unreadable : motive .unreadable)

include list record null bool int real text bytes table foreign unreadable

/-- What holds of a list and of a record if it holds of everything in them, and
holds of all other data, holds of every datum. -/
@[elab_as_elim]
theorem induction (datum : Datum) : motive datum :=
  @Datum.rec motive (fun items => ∀ item ∈ items, motive item)
    (fun fields => ∀ field ∈ fields, motive field.2) (fun _ => True)
    (fun field => motive field.2) (fun _ => True)
    null bool int real text bytes list record (fun entries _ => table entries) foreign unreadable
    (List.forall_mem_nil _) (fun _ _ item rest => List.forall_mem_cons.mpr ⟨item, rest⟩)
    (List.forall_mem_nil _) (fun _ _ field rest => List.forall_mem_cons.mpr ⟨field, rest⟩)
    trivial (fun _ _ _ _ => trivial) (fun _ _ value => value) (fun _ _ _ => trivial) datum

end Induction

section All

variable {p q : Datum → Bool}

theorem allItems_iff {items : List Datum} :
    allItems p items = true ↔ ∀ item ∈ items, item.all p = true := by
  induction items with
  | nil =>
      simp [allItems]
  | cons item rest ih =>
      rw [allItems, Bool.and_eq_true, ih, List.forall_mem_cons]

theorem allFields_iff {fields : List (String × Datum)} :
    allFields p fields = true ↔ ∀ field ∈ fields, field.2.all p = true := by
  induction fields with
  | nil =>
      simp [allFields]
  | cons field rest ih =>
      rw [allFields, Bool.and_eq_true, ih, List.forall_mem_cons]

theorem all_list_iff {items : List Datum} :
    (list items).all p = true ↔ p (.list items) = true ∧ ∀ item ∈ items, item.all p = true := by
  rw [all, Bool.and_eq_true, allItems_iff]

theorem all_record_iff {fields : List (String × Datum)} :
    (record fields).all p = true ↔
      p (.record fields) = true ∧ ∀ field ∈ fields, field.2.all p = true := by
  rw [all, Bool.and_eq_true, allFields_iff]

theorem all_mono (weaker : ∀ datum, p datum = true → q datum = true) {datum : Datum}
    (holds : datum.all p = true) : datum.all q = true := by
  induction datum using Datum.induction with
  | list items ih =>
      rw [all_list_iff] at holds ⊢
      exact ⟨weaker _ holds.1, fun item member => ih item member (holds.2 item member)⟩
  | record fields ih =>
      rw [all_record_iff] at holds ⊢
      exact ⟨weaker _ holds.1, fun field member => ih field member (holds.2 field member)⟩
  | null | bool _ | int _ | real _ | text _ | bytes _ | table _ | foreign | unreadable =>
      exact weaker _ holds

end All

/-- The names of a record are distinct. -/
def hasDistinctNames : Datum → Bool
  | .record fields => decide (fields.map Prod.fst).Nodup
  | _ => true

/-- No record of the datum repeats a name. -/
def namesDistinct (datum : Datum) : Bool :=
  datum.all hasDistinctNames

theorem namesDistinct_list_iff {items : List Datum} :
    (list items).namesDistinct = true ↔ ∀ item ∈ items, item.namesDistinct = true := by
  simp [namesDistinct, all_list_iff, hasDistinctNames]

theorem namesDistinct_record_iff {fields : List (String × Datum)} :
    (record fields).namesDistinct = true ↔
      (fields.map Prod.fst).Nodup ∧ ∀ field ∈ fields, field.2.namesDistinct = true := by
  simp [namesDistinct, all_record_iff, hasDistinctNames]

/-- The datum holds no double, no number beyond the machine words and nothing
that is not in documents, and if it is a record, then its names are distinct. -/
def isPlainNode : Datum → Bool
  | .null | .bool _ | .text _ | .list _ => true
  | .int value => isWord value
  | .record fields => decide (fields.map Prod.fst).Nodup
  | _ => false

/-- The datum is plain, and so is everything inside.  Its documents leave
nothing to chance. -/
def isPlain (datum : Datum) : Bool :=
  datum.all isPlainNode

theorem isPlain_int_of_inWords {value : Int} (words : (int value).inWords = true) :
    (int value).isPlain = true :=
  words

theorem isPlain_list_iff {items : List Datum} :
    (list items).isPlain = true ↔ ∀ item ∈ items, item.isPlain = true := by
  simp [isPlain, all_list_iff, isPlainNode]

theorem isPlain_record_iff {fields : List (String × Datum)} :
    (record fields).isPlain = true ↔
      (fields.map Prod.fst).Nodup ∧ ∀ field ∈ fields, field.2.isPlain = true := by
  simp [isPlain, all_record_iff, isPlainNode]

theorem namesDistinct_of_isPlain {datum : Datum} (plain : datum.isPlain = true) :
    datum.namesDistinct = true := by
  refine all_mono ?_ plain
  intro node holds
  cases node <;> first | rfl | exact holds

end SurveyCube.Datum
