import SurveyCube.Proofs.NameOrder
import SurveyCube.Query

/-!
# Queries

A polyline has pairs when both of its coordinate lists have one length.

Queries of both shapes are read in one way, `Datum.readFlattened`, and differ in
what they take from the fields.

Normalized attribute names are sorted and then freed from repeats, which leaves
names that ascend strictly.
-/

namespace SurveyCube

theorem CurtainQuery.pairs_eq_ok {query : CurtainQuery} {pairs : List (Nat × Nat)} :
    query.pairs = .ok pairs ↔
      query.dim0s.length = query.dim1s.length ∧ query.dim0s.zip query.dim1s = pairs := by
  unfold CurtainQuery.pairs
  split
  · rename_i even
    simp [even]
  · rename_i ragged
    simp [ragged]

/-! ## Queries as data -/

namespace Datum

/-- The reading of a record into which the fields of a query are flattened, of
which the next reader takes the others. -/
def readFlattened {α : Type} (names : List String) (next : Fields → QueryBase → Option α)
    (datum : Datum) : Option α := do
  guard datum.readable
  let fields ← datum.flatFields? names
  let base ← QueryBase.ofFields? fields.held
  next fields base

theorem readFlattened_of_unreadable
    {α : Type} {names : List String} {next : Fields → QueryBase → Option α} {datum : Datum}
    (unread : datum.readable = false) : datum.readFlattened names next = none := by
  rw [readFlattened, unread]
  rfl

end Datum

theorem SliceQuery.ofDatum?_eq (datum : Datum) :
    (ofDatum? datum : Option SliceQuery) =
      datum.readFlattened (QueryBase.fieldNames ++ ["dim", "idx"]) fun fields base => do
        return ⟨base, ← fields.required "dim", ← fields.required "idx"⟩ := rfl

theorem CurtainQuery.ofDatum?_eq (datum : Datum) :
    (ofDatum? datum : Option CurtainQuery) =
      datum.readFlattened (QueryBase.fieldNames ++ ["dim0s", "dim1s"]) fun fields base => do
        return ⟨base, ← fields.required "dim0s", ← fields.required "dim1s"⟩ := rfl

/-! ## Normalized attribute names -/

theorem mem_dropRepeats {name : String} {names : List String} :
    name ∈ dropRepeats names ↔ name ∈ names := by
  fun_induction dropRepeats names with
  | case1 => exact Iff.rfl
  | case2 => exact Iff.rfl
  | case3 next rest ih =>
      rw [ih, List.mem_cons, List.mem_cons, List.mem_cons]
      simp
  | case4 first next rest _ ih =>
      rw [List.mem_cons, ih, ← List.mem_cons]

/-- Dropping the repeats of sorted names leaves names that ascend strictly. -/
theorem dropRepeats_ascending
    {names : List String} (sorted : names.Pairwise fun a b => Text.notAfter a b = true) :
    Text.Ascending (dropRepeats names) := by
  fun_induction dropRepeats names with
  | case1 => exact List.Pairwise.nil
  | case2 name => exact List.pairwise_singleton _ name
  | case3 next rest ih =>
      rw [List.pairwise_cons] at sorted
      exact ih sorted.2
  | case4 first next rest differs ih =>
      rw [List.pairwise_cons] at sorted
      have before : Text.precedes first next = true :=
        Text.precedes_of_notAfter (sorted.1 next List.mem_cons_self) differs
      refine List.pairwise_cons.mpr ⟨?_, ih sorted.2⟩
      intro name member
      rw [mem_dropRepeats] at member
      -- The next name comes strictly behind the first, and all others not before the next.
      rcases List.mem_cons.mp member with rfl | later
      · exact before
      · exact Text.precedes_of_precedes_of_notAfter before
          ((List.pairwise_cons.mp sorted.2).1 name later)

/-- The normalized names are those that the given names are short for. -/
theorem mem_normalizedAttributes {name : String} {names : List String} :
    name ∈ normalizedAttributes names ↔ ∃ short ∈ names, name ∈ expandAttribute short := by
  rw [normalizedAttributes, mem_dropRepeats, List.mem_mergeSort, List.mem_flatMap]

theorem normalizedAttributes_ascending (names : List String) :
    Text.Ascending (normalizedAttributes names) :=
  dropRepeats_ascending (List.pairwise_mergeSort Text.notAfter_trans Text.notAfter_total _)

theorem normalizedAttributes_nodup (names : List String) : (normalizedAttributes names).Nodup :=
  (normalizedAttributes_ascending names).nodup

end SurveyCube
