import SurveyCube.Json.Reader
import SurveyCube.Proofs.Binary64
import SurveyCube.Proofs.Datum
import SurveyCube.Proofs.Outcome

/-!
# What the reader finds

Whatever the text, the data that are read from it keep to what a document can
say: integers are machine words, doubles denote numbers, and there are no raw
bytes and no tables.  Nor is a datum deeper than the reader allows.

* `Numeral.isTextual_toDatum` says so of numbers.  A numeral is scaled in steps
  that round, and none of them goes beyond the doubles unnoticed.
* `Finds` says so of readers, and `value?_finds` goes from the readers of items
  and fields to lists and records.
-/

namespace SurveyCube

namespace Datum

/-- A document can say what this node says. -/
def isTextualNode : Datum → Bool
  | .int value => isWord value
  | .real value => value.isFinite
  | .bytes _ | .table _ | .foreign => false
  | _ => true

/-- The datum could come from a document, and so could everything inside. -/
def isTextual (datum : Datum) : Bool :=
  datum.all isTextualNode

theorem isTextual_list_iff {items : List Datum} :
    (list items).isTextual = true ↔ ∀ item ∈ items, item.isTextual = true := by
  simp [isTextual, all_list_iff, isTextualNode]

theorem isTextual_record_iff {fields : List (String × Datum)} :
    (record fields).isTextual = true ↔ ∀ field ∈ fields, field.2.isTextual = true := by
  simp [isTextual, all_record_iff, isTextualNode]

end Datum

namespace Json

/-! ## Numbers -/

theorem gather_lt {word : Nat} (fits : word < wordSize) (digits : Bytes) :
    (gather word digits).1 < wordSize := by
  fun_induction gather word digits with
  | case1 => exact fits
  | case2 _ _ _ _ more ih => exact ih more
  | case3 => exact fits

theorem scale?_lt {word magnitude : Nat} {k : Int} (fits : word < wordSize)
    (scaled : scale? word k = some magnitude) : magnitude < Binary64.infinite := by
  have start : Binary64.ofNat word ≤ (64 + 1024) * 2 ^ 52 := Binary64.ofNat_le fits
  have power (n : Nat) : 1022 * 2 ^ 52 ≤ powerOfTen n :=
    Binary64.le_ofNat (Nat.pow_pos (by decide))
  have zero : 0 < Binary64.infinite := by decide
  -- Multiplication is checked for overflow.  Division is not, and it need not be:
  -- a power of ten takes a quotient up by three binades at the most.
  simp only [scale?] at scaled
  split at scaled
  · split at scaled
    · cases scaled
      exact zero
    · cases scaled
  · split at scaled
    · split at scaled
      · next small =>
        cases scaled
        exact small
      · cases scaled
    · split at scaled
      · have once := Binary64.div_le start (power (-k).toNat)
        cases scaled
        rw [Binary64.infinite]
        omega
      · split at scaled
        · have twice := Binary64.div_le (Binary64.div_le start (power 308))
            (power (-(k + 308)).toNat)
          cases scaled
          rw [Binary64.infinite]
          omega
        · cases scaled
          exact zero

namespace Numeral

theorem magnitude?_lt {numeral : Numeral} {magnitude : Nat}
    (denoted : numeral.magnitude? = some magnitude) : magnitude < Binary64.infinite := by
  have whole := gather_lt (by decide : 0 < wordSize) numeral.whole
  have fits := gather_lt whole (numeral.fraction.getD [])
  simp only [magnitude?] at denoted
  split at denoted
  · exact scale?_lt fits denoted
  · split at denoted
    · split at denoted
      · cases denoted
        decide
      · cases denoted
    · exact scale?_lt fits denoted

/-- A numeral denotes nothing or a double that is a number. -/
theorem toReal_cases (numeral : Numeral) :
    numeral.toReal = .unreadable ∨
      ∃ value, numeral.toReal = .real value ∧ value.isFinite = true := by
  rw [toReal]
  split
  · next denoted =>
    exact Or.inr ⟨_, rfl, Binary64.isFinite_ofMagnitude (magnitude?_lt denoted) _⟩
  · exact Or.inl rfl

/-- A numeral that is not read as a double denotes a machine word. -/
theorem toDatum_cases (numeral : Numeral) :
    numeral.toDatum = numeral.toReal ∨
      ∃ value, numeral.toDatum = .int value ∧ Datum.isWord value = true := by
  simp only [toDatum]
  split
  · split
    · split
      · exact Or.inr ⟨_, rfl, Datum.isWord_iff.mpr (by omega)⟩
      · exact Or.inl rfl
    · split
      · next small =>
        rw [wordSize] at small
        exact Or.inr ⟨_, rfl, Datum.isWord_iff.mpr (by omega)⟩
      · exact Or.inl rfl
  · exact Or.inl rfl

theorem isTextual_toDatum (numeral : Numeral) :
    numeral.toDatum.depth = 0 ∧ numeral.toDatum.isTextual = true := by
  rcases numeral.toDatum_cases with same | ⟨value, same, word⟩
  · rw [same]
    rcases numeral.toReal_cases with nothing | ⟨value, real, finite⟩
    · rw [nothing]
      exact ⟨rfl, rfl⟩
    · rw [real]
      exact ⟨rfl, finite⟩
  · rw [same]
    exact ⟨rfl, word⟩

end Numeral

/-! ## Lists and records -/

section Containers

variable {read? : Bytes → Option (Datum × Bytes)} {P : Datum → Prop}

/-- Whatever the reader finds has the property. -/
def Finds (read? : Bytes → Option (Datum × Bytes)) (P : Datum → Prop) : Prop :=
  ∀ {bytes datum rest}, read? bytes = some (datum, rest) → P datum

theorem items?_finds (finds : Finds read? P) {bound : Nat} {bytes rest : Bytes}
    {items : List Datum} (found : items? read? bound bytes = some (items, rest)) :
    ∀ item ∈ items, P item := by
  induction bound generalizing bytes items rest with
  | zero => cases found
  | succ bound ih =>
      rw [items?] at found
      obtain ⟨⟨item, after⟩, first, found⟩ := Option.bind_eq_some_iff.mp found
      dsimp only at found
      split at found
      · obtain ⟨⟨later, last⟩, more, same⟩ := Option.bind_eq_some_iff.mp found
        cases same
        exact List.forall_mem_cons.mpr ⟨finds first, ih more⟩
      · cases found
        exact List.forall_mem_singleton.mpr (finds first)
      · cases found

theorem field?_finds (finds : Finds read? P) {bytes rest : Bytes}
    {field : Option String × Datum} (found : field? read? bytes = some (field, rest)) :
    P field.2 := by
  rw [field?] at found
  split at found
  · obtain ⟨⟨pieces, after⟩, _, found⟩ := Option.bind_eq_some_iff.mp found
    dsimp only at found
    split at found
    · obtain ⟨⟨value, last⟩, inside, same⟩ := Option.bind_eq_some_iff.mp found
      cases same
      exact finds inside
    · cases found
  · cases found

theorem fields?_finds (finds : Finds read? P) {bound : Nat} {bytes rest : Bytes}
    {fields : List (Option String × Datum)}
    (found : fields? read? bound bytes = some (fields, rest)) : ∀ field ∈ fields, P field.2 := by
  induction bound generalizing bytes fields rest with
  | zero => cases found
  | succ bound ih =>
      rw [fields?] at found
      obtain ⟨⟨field, after⟩, first, found⟩ := Option.bind_eq_some_iff.mp found
      dsimp only at found
      split at found
      · obtain ⟨⟨later, last⟩, more, same⟩ := Option.bind_eq_some_iff.mp found
        cases same
        exact List.forall_mem_cons.mpr ⟨field?_finds finds first, ih more⟩
      · cases found
        exact List.forall_mem_singleton.mpr (field?_finds finds first)
      · cases found

theorem list?_finds (finds : Finds read? P) (bound : Nat) :
    Finds (list? read? bound) fun datum =>
      ∃ items, datum = .list items ∧ ∀ item ∈ items, P item := by
  intro bytes datum rest found
  rw [list?] at found
  split at found
  · cases found
    exact ⟨[], rfl, List.forall_mem_nil P⟩
  · obtain ⟨⟨items, after⟩, inside, same⟩ := Option.map_eq_some_iff.mp found
    cases same
    exact ⟨items, rfl, items?_finds finds inside⟩

/-- A record with a name that cannot be read is not read. -/
theorem recordDatum_cases (fields : List (Option String × Datum)) :
    recordDatum fields = .unreadable ∨
      ∃ known : List (String × Datum), recordDatum fields = .record known ∧
        ∀ field ∈ known, (some field.1, field.2) ∈ fields := by
  rw [recordDatum]
  split
  · next known all =>
    refine Or.inr ⟨known, rfl, ?_⟩
    intro field member
    obtain ⟨⟨name?, value⟩, listed, same⟩ := exists_item_of_forall₂ (mapM_eq_some.mp all) member
    obtain ⟨name, rfl, rfl⟩ := Option.map_eq_some_iff.mp same
    exact listed
  · exact Or.inl rfl

theorem record?_finds (finds : Finds read? P) (bound : Nat) :
    Finds (record? read? bound) fun datum =>
      datum = .unreadable ∨ ∃ fields, datum = .record fields ∧ ∀ field ∈ fields, P field.2 := by
  intro bytes datum rest found
  rw [record?] at found
  split at found
  · cases found
    exact Or.inr ⟨[], rfl, List.forall_mem_nil _⟩
  · obtain ⟨⟨fields, after⟩, inside, same⟩ := Option.map_eq_some_iff.mp found
    cases same
    have each := fields?_finds finds inside
    refine (recordDatum_cases fields).imp_right ?_
    rintro ⟨known, made, listed⟩
    exact ⟨known, made, fun field member => each _ (listed field member)⟩

end Containers

/-! ## Values -/

/-- The datum could come from a document, and it has no more than so many levels. -/
def Fits (levels : Nat) (datum : Datum) : Prop :=
  datum.depth ≤ levels ∧ datum.isTextual = true

theorem fits_unreadable (levels : Nat) : Fits levels .unreadable :=
  ⟨Nat.zero_le levels, rfl⟩

theorem fits_list {levels : Nat} {items : List Datum} (each : ∀ item ∈ items, Fits levels item) :
    Fits (levels + 1) (.list items) := by
  constructor
  · rw [Datum.depth, Nat.add_le_add_iff_right, Datum.depthItems_le_iff]
    exact fun item member => (each item member).1
  · rw [Datum.isTextual_list_iff]
    exact fun item member => (each item member).2

theorem fits_record {levels : Nat} {fields : List (String × Datum)}
    (each : ∀ field ∈ fields, Fits levels field.2) : Fits (levels + 1) (.record fields) := by
  constructor
  · rw [Datum.depth, Nat.add_le_add_iff_right, Datum.depthFields_le_iff]
    exact fun field member => (each field member).1
  · rw [Datum.isTextual_record_iff]
    exact fun field member => (each field member).2

theorem fits_limited {levels : Nat} {datum : Datum}
    (fits : levels ≠ 0 → Fits (levels - 1 + 1) datum) : Fits levels (limited levels datum) := by
  rw [limited]
  split
  · exact fits_unreadable levels
  · next nonzero =>
    have inside := fits nonzero
    rwa [Nat.sub_add_cancel (Nat.pos_of_ne_zero nonzero)] at inside

theorem value?_finds (bound levels : Nat) : Finds (value? bound levels) (Fits levels) := by
  induction bound generalizing levels with
  | zero =>
      intro bytes datum rest found
      cases found
  | succ bound ih =>
      intro bytes datum rest found
      unfold value? at found
      simp only at found
      -- A list, a record, a text, one of the three words, or a numeral.
      split at found
      · obtain ⟨⟨inner, after⟩, inside, same⟩ := Option.map_eq_some_iff.mp found
        cases same
        obtain ⟨items, rfl, each⟩ := list?_finds (ih (levels - 1)) bound inside
        exact fits_limited fun _ => fits_list each
      · obtain ⟨⟨inner, after⟩, inside, same⟩ := Option.map_eq_some_iff.mp found
        cases same
        apply fits_limited
        intro _
        rcases record?_finds (ih (levels - 1)) bound inside with rfl | ⟨fields, rfl, each⟩
        · exact fits_unreadable _
        · exact fits_record each
      · obtain ⟨⟨pieces, after⟩, _, same⟩ := Option.map_eq_some_iff.mp found
        cases same
        rw [textDatum]
        split <;> exact ⟨Nat.zero_le levels, rfl⟩
      · obtain ⟨after, _, same⟩ := Option.map_eq_some_iff.mp found
        cases same
        exact ⟨Nat.zero_le levels, rfl⟩
      · obtain ⟨after, _, same⟩ := Option.map_eq_some_iff.mp found
        cases same
        exact ⟨Nat.zero_le levels, rfl⟩
      · obtain ⟨after, _, same⟩ := Option.map_eq_some_iff.mp found
        cases same
        exact ⟨Nat.zero_le levels, rfl⟩
      · obtain ⟨⟨numeral, after⟩, _, same⟩ := Option.map_eq_some_iff.mp found
        cases same
        obtain ⟨flat, textual⟩ := numeral.isTextual_toDatum
        exact ⟨flat.trans_le (Nat.zero_le levels), textual⟩

theorem read?_finds : Finds read? (Fits maxDepth) :=
  value?_finds _ maxDepth

end Json

end SurveyCube
