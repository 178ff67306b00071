import Mathlib.Data.List.Forall2
import SurveyCube.Json.Reader
import SurveyCube.Json.Writer
import SurveyCube.Proofs.Json.Number
import SurveyCube.Proofs.Json.Quoted

/-!
# Documents are read back

The compact document of a plain datum is read back as that datum, if no more
levels are nested than can be read.

* `Reads` says that a reader finds a datum in a text.  What follows must not go
  on with a part of a numeral; a comma, a bracket or a blank does not.
* `Delimits` leaves open what follows: lists and records end with their closing
  bracket.
* The lemmas about lists and records leave the texts of their items open, and
  how many blanks stand between them.
* The bound of the reader is the length of the document, for no value is deeper
  or has more items than its document has bytes.
-/

namespace SurveyCube.Json

/-! ## Values by their first byte -/

section Values

variable (bound levels : Nat) (rest : Bytes)

theorem value?_list :
    value? (bound + 1) levels (91 :: rest) =
      (list? (value? bound (levels - 1)) bound rest).map
        fun (datum, rest) => (limited levels datum, rest) := by
  simp [value?, skipBlanks, isBlank]

theorem value?_record :
    value? (bound + 1) levels (123 :: rest) =
      (record? (value? bound (levels - 1)) bound rest).map
        fun (datum, rest) => (limited levels datum, rest) := by
  simp [value?, skipBlanks, isBlank]

theorem value?_quote (text : String) :
    value? (bound + 1) levels (quote text ++ rest) = some (.text text, rest) := by
  obtain ⟨body, pieces, written, found, denoted⟩ := exists_pieces?_quote text rest
  rw [written]
  simp [value?, skipBlanks, isBlank, found, textDatum, denoted]

theorem isBlank_eq_false {first : UInt8} (begins : Decimal.isDigit first = true ∨ first = 45) :
    isBlank first = false := by
  rw [← Bool.not_eq_true]
  intro blank
  simp only [isBlank, Bool.or_eq_true, decide_eq_true_eq] at blank
  rcases blank with ((rfl | rfl) | rfl) | rfl <;> exact absurd begins (by decide)

theorem value?_numeral {first : UInt8}
    (begins : Decimal.isDigit first = true ∨ first = 45) :
    value? (bound + 1) levels (first :: rest) =
      (numeral? (first :: rest)).map fun (numeral, rest) => (numeral.toDatum, rest) := by
  have printed : skipBlanks (first :: rest) = first :: rest :=
    List.dropWhile_cons_of_neg (by simp [isBlank_eq_false begins])
  unfold value?
  rw [printed]
  split
  case h_7 => rfl
  all_goals
    next same =>
      cases same
      exact absurd begins (by decide)

theorem value?_ofInt {value : Int} (word : Datum.isWord value = true)
    (ends : endsNumeral rest = true) :
    value? (bound + 1) levels (Decimal.ofInt value ++ rest) = some (.int value, rest) := by
  obtain ⟨first, later, written, begins⟩ := exists_ofInt_eq_cons value
  obtain ⟨numeral, found, denoted⟩ := exists_numeral?_ofInt word ends
  rw [written, List.cons_append] at found ⊢
  rw [value?_numeral bound levels (later ++ rest) begins, found, ← denoted, Option.map_some]

end Values

/-! ## Blanks -/

section Blanks

variable {gap : Bytes}

theorem skipBlanks_append (blank : ∀ byte ∈ gap, isBlank byte = true) (rest : Bytes) :
    skipBlanks (gap ++ rest) = skipBlanks rest :=
  List.dropWhile_append_of_pos blank

theorem skipBlanks_cons {first : UInt8} (printed : isBlank first = false) (rest : Bytes) :
    skipBlanks (first :: rest) = first :: rest :=
  List.dropWhile_cons_of_neg (by simp [printed])

theorem endsNumeral_append (blank : ∀ byte ∈ gap, isBlank byte = true) {rest : Bytes}
    (ends : endsNumeral rest = true) : endsNumeral (gap ++ rest) = true := by
  cases gap with
  | nil => exact ends
  | cons byte later =>
      have first := blank byte List.mem_cons_self
      simp only [isBlank, Bool.or_eq_true, decide_eq_true_eq] at first
      rcases first with ((rfl | rfl) | rfl) | rfl <;> rfl

theorem value?_append (blank : ∀ byte ∈ gap, isBlank byte = true) (bound levels : Nat)
    (bytes : Bytes) : value? bound levels (gap ++ bytes) = value? bound levels bytes := by
  cases bound with
  | zero => rfl
  | succ bound =>
      unfold value?
      rw [skipBlanks_append blank]

end Blanks

/-! ## Texts between commas -/

theorem length_le_of_mem_intercalate {text : Bytes} {texts : List Bytes} (member : text ∈ texts) :
    text.length ≤ (List.intercalate [44] texts).length := by
  induction texts with
  | nil => cases member
  | cons first later ih =>
      by_cases last : later = []
      · subst last
        have same : List.intercalate [44] [first] = text := by
          rw [List.mem_singleton.mp member, List.intercalate_singleton]
        exact Nat.le_of_eq (congrArg List.length same.symm)
      · rw [List.intercalate_cons_of_ne_nil last, List.length_append, List.length_append]
        rcases List.mem_cons.mp member with rfl | inside
        · omega
        · have := ih inside
          omega

theorem length_le_length_intercalate (texts : List Bytes) :
    texts.length ≤ (List.intercalate [44] texts).length + 1 := by
  induction texts with
  | nil => exact Nat.zero_le _
  | cons first later ih =>
      by_cases last : later = []
      · subst last
        exact Nat.le_add_left 1 _
      · rw [List.intercalate_cons_of_ne_nil last, List.length_append, List.length_append,
          List.length_cons, List.length_singleton]
        omega

/-! ## Lists and records -/

section Containers

variable {read? : Bytes → Option (Datum × Bytes)}

/-- The reader finds the datum in the text, in front of anything that does not
go on with a part of a numeral. -/
def Reads (read? : Bytes → Option (Datum × Bytes)) (text : Bytes) (datum : Datum) : Prop :=
  ∀ rest, endsNumeral rest = true → read? (text ++ rest) = some (datum, rest)

/-- The reader finds the datum in the text, in front of anything. -/
def Delimits (read? : Bytes → Option (Datum × Bytes)) (text : Bytes) (datum : Datum) : Prop :=
  ∀ rest, read? (text ++ rest) = some (datum, rest)

/-- The field is found in the text, in front of anything that does not go on
with a part of a numeral. -/
def ReadsField (read? : Bytes → Option (Datum × Bytes)) (text : Bytes)
    (field : String × Datum) : Prop :=
  ∀ rest, endsNumeral rest = true →
    field? read? (text ++ rest) = some ((some field.1, field.2), rest)

theorem Delimits.reads {text : Bytes} {datum : Datum} (delimits : Delimits read? text datum) :
    Reads read? text datum :=
  fun rest _ => delimits rest

theorem readsField (before : Bytes) {text : Bytes} {value : Datum} (name : String)
    (blank : ∀ byte ∈ before, isBlank byte = true) (reads : Reads read? text value) :
    ReadsField read? (before ++ (quote name ++ 58 :: text)) (name, value) := by
  intro rest ends
  obtain ⟨body, pieces, written, found, denoted⟩ :=
    exists_pieces?_quote name (58 :: (text ++ rest))
  have here := reads rest ends
  rw [field?, List.append_assoc, skipBlanks_append blank, written]
  simp [skipBlanks, isBlank, found, here, denoted]

variable {texts : List Bytes} {gap : Bytes} {bound : Nat}

theorem items?_intercalate {items : List Datum}
    (each : List.Forall₂ (Reads read?) texts items) (full : texts ≠ [])
    (blank : ∀ byte ∈ gap, isBlank byte = true) (enough : texts.length ≤ bound) (rest : Bytes) :
    items? read? bound (List.intercalate [44] texts ++ (gap ++ 93 :: rest)) =
      some (items, rest) := by
  induction each generalizing bound with
  | nil => exact absurd rfl full
  | cons first later ih =>
      rename_i text item texts items
      rw [List.length_cons] at enough
      obtain ⟨bound, rfl⟩ := Nat.exists_eq_add_one_of_ne_zero (Nat.ne_zero_of_lt enough)
      by_cases last : texts = []
      · subst last
        cases later
        have found := first (gap ++ 93 :: rest) (endsNumeral_append blank rfl)
        have closed : skipBlanks (gap ++ 93 :: rest) = 93 :: rest := by
          rw [skipBlanks_append blank, skipBlanks_cons (by decide)]
        simp [items?, found, closed]
      · have tail := ih last (Nat.le_of_succ_le_succ enough)
        have found := first (44 :: (List.intercalate [44] texts ++ (gap ++ 93 :: rest))) rfl
        simp [List.intercalate_cons_of_ne_nil last, items?, found, tail, skipBlanks, isBlank]

/-- The names of a record are all known. -/
def named (fields : List (String × Datum)) : List (Option String × Datum) :=
  fields.map fun (name, value) => (some name, value)

theorem fields?_intercalate {fields : List (String × Datum)}
    (each : List.Forall₂ (ReadsField read?) texts fields) (full : texts ≠ [])
    (blank : ∀ byte ∈ gap, isBlank byte = true) (enough : texts.length ≤ bound) (rest : Bytes) :
    fields? read? bound (List.intercalate [44] texts ++ (gap ++ 125 :: rest)) =
      some (named fields, rest) := by
  induction each generalizing bound with
  | nil => exact absurd rfl full
  | cons first later ih =>
      rename_i text field texts fields
      rw [List.length_cons] at enough
      obtain ⟨bound, rfl⟩ := Nat.exists_eq_add_one_of_ne_zero (Nat.ne_zero_of_lt enough)
      by_cases last : texts = []
      · subst last
        cases later
        have found := first (gap ++ 125 :: rest) (endsNumeral_append blank rfl)
        have closed : skipBlanks (gap ++ 125 :: rest) = 125 :: rest := by
          rw [skipBlanks_append blank, skipBlanks_cons (by decide)]
        simp [fields?, found, closed, named]
      · have tail := ih last (Nat.le_of_succ_le_succ enough)
        have found := first (44 :: (List.intercalate [44] texts ++ (gap ++ 125 :: rest))) rfl
        simp [List.intercalate_cons_of_ne_nil last, fields?, found, tail, skipBlanks, isBlank,
          named]

theorem recordDatum_named (fields : List (String × Datum)) :
    recordDatum (named fields) = .record fields := by
  have all : (named fields).mapM (fun field => field.1.map fun name => (name, field.2)) =
      some fields := by
    induction fields with
    | nil => rfl
    | cons field later ih =>
        simp only [named] at ih
        simp [named, ih]
  simp only [recordDatum, all]

/-- No value begins with a closing bracket. -/
theorem value?_bracket {bytes rest : Bytes} (begins : skipBlanks bytes = 93 :: rest)
    (bound levels : Nat) : value? bound levels bytes = none := by
  cases bound with
  | zero => rfl
  | succ bound =>
      unfold value?
      rw [begins]
      rfl

/-- No field begins with a closing brace. -/
theorem field?_brace {bytes rest : Bytes} (begins : skipBlanks bytes = 125 :: rest) :
    field? read? bytes = none := by
  unfold field?
  rw [begins]
  rfl

theorem delimits_list (gap : Bytes) {items : List Datum} {levels : Nat}
    (each : List.Forall₂ (Reads (value? bound levels)) texts items)
    (blank : ∀ byte ∈ gap, isBlank byte = true) (enough : texts.length ≤ bound) :
    Delimits (value? (bound + 1) (levels + 1))
      (91 :: (List.intercalate [44] texts ++ (gap ++ [93]))) (.list items) := by
  intro rest
  have found : list? (value? bound levels) bound
      (List.intercalate [44] texts ++ (gap ++ 93 :: rest)) = some (.list items, rest) := by
    by_cases full : texts = []
    · subst full
      cases each
      rw [List.intercalate_nil, List.nil_append, list?, skipBlanks_append blank,
        skipBlanks_cons (by decide)]
      rfl
    · have inside := items?_intercalate each full blank enough rest
      unfold list?
      split
      · next begins =>
        -- Then there would be no first item.
        cases bound with
        | zero => cases inside
        | succ bound =>
            rw [items?, value?_bracket begins] at inside
            cases inside
      · rw [inside, Option.map_some]
  rw [List.cons_append, value?_list, Nat.add_sub_cancel, List.append_assoc, List.append_assoc,
    List.singleton_append, found]
  rfl

theorem delimits_record (gap : Bytes) {fields : List (String × Datum)} {levels : Nat}
    (each : List.Forall₂ (ReadsField (value? bound levels)) texts fields)
    (blank : ∀ byte ∈ gap, isBlank byte = true) (enough : texts.length ≤ bound) :
    Delimits (value? (bound + 1) (levels + 1))
      (123 :: (List.intercalate [44] texts ++ (gap ++ [125]))) (.record fields) := by
  intro rest
  have found : record? (value? bound levels) bound
      (List.intercalate [44] texts ++ (gap ++ 125 :: rest)) = some (.record fields, rest) := by
    by_cases full : texts = []
    · subst full
      cases each
      rw [List.intercalate_nil, List.nil_append, record?, skipBlanks_append blank,
        skipBlanks_cons (by decide)]
      rfl
    · have inside := fields?_intercalate each full blank enough rest
      unfold record?
      split
      · next begins =>
        -- Then there would be no first field.
        cases bound with
        | zero => cases inside
        | succ bound =>
            rw [fields?, field?_brace begins] at inside
            cases inside
      · simp only [inside, Option.map_some, recordDatum_named]
  rw [List.cons_append, value?_record, Nat.add_sub_cancel, List.append_assoc, List.append_assoc,
    List.singleton_append, found]
  rfl

end Containers

/-! ## Plain data -/

/-- A plain datum that is neither a list nor a record is read from its written
form. -/
theorem reads_scalar {datum : Datum} {bound levels : Nat} (plain : datum.isPlain = true)
    (simple : datum.depth = 0) (enough : (scalar datum).length ≤ bound) :
    Reads (value? bound levels) (scalar datum) datum := by
  cases datum with
  | null =>
      obtain ⟨bound, rfl⟩ := Nat.exists_eq_add_one_of_ne_zero (Nat.ne_zero_of_lt enough)
      exact fun rest _ => rfl
  | bool value =>
      cases value <;>
        obtain ⟨bound, rfl⟩ := Nat.exists_eq_add_one_of_ne_zero (Nat.ne_zero_of_lt enough) <;>
        exact fun rest _ => rfl
  | int value =>
      obtain ⟨first, later, written, _⟩ := exists_ofInt_eq_cons value
      rw [scalar, written] at enough
      obtain ⟨bound, rfl⟩ := Nat.exists_eq_add_one_of_ne_zero (Nat.ne_zero_of_lt enough)
      exact fun rest ends => value?_ofInt bound levels rest plain ends
  | text value =>
      obtain ⟨bound, rfl⟩ := Nat.exists_eq_add_one_of_ne_zero (Nat.ne_zero_of_lt enough)
      exact fun rest _ => value?_quote bound levels rest value
  | list _ | record _ => cases simple
  | real _ | bytes _ | table _ | foreign | unreadable => cases plain

theorem compactItems_eq (items : List Datum) :
    compactItems items = List.intercalate [44] (items.map compact) ++ [93] := by
  induction items with
  | nil => rfl
  | cons item later ih =>
      cases later with
      | nil => simp [compactItems]
      | cons next others => simp [compactItems, ih]

/-- The compact form of a field, without the comma or brace after it. -/
def compactField (field : String × Datum) : Bytes :=
  quote field.1 ++ 58 :: compact field.2

theorem compactFields_eq (fields : List (String × Datum)) :
    compactFields fields = List.intercalate [44] (fields.map compactField) ++ [125] := by
  induction fields with
  | nil => rfl
  | cons field later ih =>
      obtain ⟨name, value⟩ := field
      cases later with
      | nil => simp [compactFields, compactField]
      | cons next others => simp [compactFields, compactField, ih]

section Compact

variable {bound levels : Nat}

theorem delimits_compact_list {items : List Datum}
    (enough : (compact (.list items)).length ≤ bound + 1)
    (each : ∀ item ∈ items, (compact item).length ≤ bound →
      Reads (value? bound levels) (compact item) item) :
    Delimits (value? (bound + 1) (levels + 1)) (compact (.list items)) (.list items) := by
  rw [compact, compactItems_eq, List.length_cons, List.length_append, List.length_singleton,
    Nat.add_le_add_iff_right] at enough
  have count := length_le_length_intercalate (items.map compact)
  rw [compact, compactItems_eq]
  refine delimits_list [] ?_ (by simp) (Nat.le_trans count enough)
  rw [List.forall₂_map_left_iff, List.forall₂_same]
  intro item member
  have long := length_le_of_mem_intercalate (List.mem_map_of_mem (f := compact) member)
  exact each item member (by omega)

theorem delimits_compact_record {fields : List (String × Datum)}
    (enough : (compact (.record fields)).length ≤ bound + 1)
    (each : ∀ field ∈ fields, (compact field.2).length ≤ bound →
      Reads (value? bound levels) (compact field.2) field.2) :
    Delimits (value? (bound + 1) (levels + 1)) (compact (.record fields)) (.record fields) := by
  rw [compact, compactFields_eq, List.length_cons, List.length_append, List.length_singleton,
    Nat.add_le_add_iff_right] at enough
  have count := length_le_length_intercalate (fields.map compactField)
  rw [compact, compactFields_eq]
  refine delimits_record [] ?_ (by simp) (Nat.le_trans count enough)
  rw [List.forall₂_map_left_iff, List.forall₂_same]
  intro field member
  have long := length_le_of_mem_intercalate (List.mem_map_of_mem (f := compactField) member)
  rw [compactField, List.length_append, List.length_cons] at long
  exact readsField [] field.1 (by simp) (each field member (by omega))

/-- The compact form of a plain datum is read as that datum. -/
theorem value?_compact {datum : Datum} (plain : datum.isPlain = true)
    (shallow : datum.depth ≤ levels) (enough : (compact datum).length ≤ bound) :
    Reads (value? bound levels) (compact datum) datum := by
  induction datum using Datum.induction generalizing bound levels with
  | null | bool _ | int _ | text _ => exact reads_scalar plain rfl enough
  | list items ih =>
      obtain ⟨bound, rfl⟩ := Nat.exists_eq_add_one_of_ne_zero (Nat.ne_zero_of_lt enough)
      obtain ⟨levels, rfl⟩ := Nat.exists_eq_add_one_of_ne_zero (Nat.ne_zero_of_lt shallow)
      rw [Datum.isPlain_list_iff] at plain
      rw [Datum.depth, Nat.add_le_add_iff_right, Datum.depthItems_le_iff] at shallow
      exact (delimits_compact_list enough fun item member =>
        ih item member (plain item member) (shallow item member)).reads
  | record fields ih =>
      obtain ⟨bound, rfl⟩ := Nat.exists_eq_add_one_of_ne_zero (Nat.ne_zero_of_lt enough)
      obtain ⟨levels, rfl⟩ := Nat.exists_eq_add_one_of_ne_zero (Nat.ne_zero_of_lt shallow)
      rw [Datum.isPlain_record_iff] at plain
      rw [Datum.depth, Nat.add_le_add_iff_right, Datum.depthFields_le_iff] at shallow
      exact (delimits_compact_record enough fun field member =>
        ih field member (plain.2 field member) (shallow field member)).reads
  | real _ | bytes _ | table _ | foreign | unreadable => cases plain

/-- The compact form of a plain record is read as that record, whatever bytes
follow. -/
theorem read?_compact_record {fields : List (String × Datum)}
    (plain : (Datum.record fields).isPlain = true)
    (shallow : (Datum.record fields).depth ≤ maxDepth) (rest : Bytes) :
    read? (compact (.record fields) ++ rest) = some (.record fields, rest) := by
  rw [Datum.isPlain_record_iff] at plain
  rw [Datum.depth, maxDepth, Nat.add_le_add_iff_right, Datum.depthFields_le_iff] at shallow
  have enough : (compact (.record fields)).length ≤ (compact (.record fields) ++ rest).length := by
    rw [List.length_append]
    exact Nat.le_add_right _ _
  exact delimits_compact_record (Nat.le_succ_of_le enough)
    (fun field member => value?_compact (plain.2 field member) (shallow field member)) rest

/-- The compact document of a plain datum holds that datum. -/
theorem document?_compact {datum : Datum} (plain : datum.isPlain = true)
    (shallow : datum.depth ≤ maxDepth) : document? (compact datum) = some datum := by
  have found := value?_compact plain shallow (Nat.le_succ (compact datum).length) [] rfl
  rw [List.append_nil] at found
  rw [document?, read?, found]
  rfl

end Compact

end SurveyCube.Json
