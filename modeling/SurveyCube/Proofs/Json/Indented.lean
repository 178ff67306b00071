import SurveyCube.Proofs.Json.Document

/-!
# Indented documents are read back

The indented form of a datum has the same tokens as the compact form, with
blanks between them.  So it is read as the same datum.
-/

namespace SurveyCube.Json

theorem isBlank_of_mem_newline {level : Nat} {byte : UInt8} (member : byte ∈ newline level) :
    isBlank byte = true := by
  rcases List.mem_cons.mp member with rfl | inside
  · rfl
  · rw [List.eq_of_mem_replicate inside]
    rfl

/-- The line of an item at a level. -/
def itemLine (level : Nat) (item : Datum) : Bytes :=
  newline level ++ indentedAt level item

/-- The line of a field at a level. -/
def fieldLine (level : Nat) (field : String × Datum) : Bytes :=
  newline level ++ (quote field.1 ++ 58 :: 32 :: indentedAt level field.2)

theorem indentedItems_eq (level : Nat) (items : List Datum) :
    indentedItems level items = List.intercalate [44] (items.map (itemLine level)) := by
  induction items with
  | nil => rfl
  | cons item later ih =>
      cases later with
      | nil => simp [indentedItems, itemLine]
      | cons next others => simp [indentedItems, itemLine, ih]

theorem indentedFields_eq (level : Nat) (fields : List (String × Datum)) :
    indentedFields level fields = List.intercalate [44] (fields.map (fieldLine level)) := by
  induction fields with
  | nil => rfl
  | cons field later ih =>
      obtain ⟨name, value⟩ := field
      cases later with
      | nil => simp [indentedFields, fieldLine]
      | cons next others => simp [indentedFields, fieldLine, ih]

/-- The items of a list stand on lines of their own, between blanks. -/
theorem exists_indentedAt_list (level : Nat) (items : List Datum) :
    ∃ gap, (∀ byte ∈ gap, isBlank byte = true) ∧ indentedAt level (.list items) =
      91 :: (List.intercalate [44] (items.map (itemLine (level + 1))) ++ (gap ++ [93])) := by
  cases items with
  | nil => exact ⟨[], by simp, rfl⟩
  | cons item later =>
      refine ⟨newline level, fun _ => isBlank_of_mem_newline, ?_⟩
      rw [indentedAt, indentedItems_eq, List.cons_append, List.cons_append, List.append_assoc]
      simp

theorem exists_indentedAt_record (level : Nat) (fields : List (String × Datum)) :
    ∃ gap, (∀ byte ∈ gap, isBlank byte = true) ∧ indentedAt level (.record fields) =
      123 :: (List.intercalate [44] (fields.map (fieldLine (level + 1))) ++ (gap ++ [125])) := by
  cases fields with
  | nil => exact ⟨[], by simp, rfl⟩
  | cons field later =>
      refine ⟨newline level, fun _ => isBlank_of_mem_newline, ?_⟩
      rw [indentedAt, indentedFields_eq, List.cons_append, List.cons_append, List.append_assoc]
      simp

theorem Reads.after_blanks {bound levels : Nat} (gap : Bytes) {text : Bytes} {datum : Datum}
    (blank : ∀ byte ∈ gap, isBlank byte = true) (reads : Reads (value? bound levels) text datum) :
    Reads (value? bound levels) (gap ++ text) datum := by
  intro rest ends
  rw [List.append_assoc, value?_append blank, reads rest ends]

/-- The indented form of a plain datum is read as that datum. -/
theorem value?_indentedAt {datum : Datum} {bound levels level : Nat}
    (plain : datum.isPlain = true) (shallow : datum.depth ≤ levels)
    (enough : (indentedAt level datum).length ≤ bound) :
    Reads (value? bound levels) (indentedAt level datum) datum := by
  induction datum using Datum.induction generalizing bound levels level with
  | null | bool _ | int _ | text _ => exact reads_scalar plain rfl enough
  | list items ih =>
      obtain ⟨levels, rfl⟩ := Nat.exists_eq_add_one_of_ne_zero (Nat.ne_zero_of_lt shallow)
      rw [Datum.isPlain_list_iff] at plain
      rw [Datum.depth, Nat.add_le_add_iff_right, Datum.depthItems_le_iff] at shallow
      obtain ⟨gap, blank, written⟩ := exists_indentedAt_list level items
      rw [written] at enough ⊢
      obtain ⟨bound, rfl⟩ := Nat.exists_eq_add_one_of_ne_zero (Nat.ne_zero_of_lt enough)
      simp only [List.length_cons, List.length_append] at enough
      have count := length_le_length_intercalate (items.map (itemLine (level + 1)))
      refine (delimits_list gap ?_ blank (by omega)).reads
      rw [List.forall₂_map_left_iff, List.forall₂_same]
      intro item member
      have long := length_le_of_mem_intercalate
        (List.mem_map_of_mem (f := itemLine (level + 1)) member)
      rw [itemLine, List.length_append] at long
      have reads : Reads (value? bound levels) (indentedAt (level + 1) item) item :=
        ih item member (plain item member) (shallow item member) (by omega)
      exact reads.after_blanks _ fun _ => isBlank_of_mem_newline
  | record fields ih =>
      obtain ⟨levels, rfl⟩ := Nat.exists_eq_add_one_of_ne_zero (Nat.ne_zero_of_lt shallow)
      rw [Datum.isPlain_record_iff] at plain
      rw [Datum.depth, Nat.add_le_add_iff_right, Datum.depthFields_le_iff] at shallow
      obtain ⟨gap, blank, written⟩ := exists_indentedAt_record level fields
      rw [written] at enough ⊢
      obtain ⟨bound, rfl⟩ := Nat.exists_eq_add_one_of_ne_zero (Nat.ne_zero_of_lt enough)
      simp only [List.length_cons, List.length_append] at enough
      have count := length_le_length_intercalate (fields.map (fieldLine (level + 1)))
      refine (delimits_record gap ?_ blank (by omega)).reads
      rw [List.forall₂_map_left_iff, List.forall₂_same]
      intro field member
      have long := length_le_of_mem_intercalate
        (List.mem_map_of_mem (f := fieldLine (level + 1)) member)
      simp only [fieldLine, List.length_append, List.length_cons] at long
      have reads : Reads (value? bound levels) (indentedAt (level + 1) field.2) field.2 :=
        ih field member (plain.2 field member) (shallow field member) (by omega)
      have spaced := reads.after_blanks [32] (List.forall_mem_singleton.mpr rfl)
      exact readsField (newline (level + 1)) field.1 (fun _ => isBlank_of_mem_newline) spaced
  | real _ | bytes _ | table _ | foreign | unreadable => cases plain

theorem document?_indented {datum : Datum} (plain : datum.isPlain = true)
    (shallow : datum.depth ≤ maxDepth) : document? (indented datum) = some datum := by
  have found := value?_indentedAt plain shallow (Nat.le_succ (indentedAt 0 datum).length) [] rfl
  rw [List.append_nil] at found
  rw [document?, read?, indented, found]
  rfl

end SurveyCube.Json
