import Mathlib.Data.List.Sort
import SurveyCube.Text.Utf8

/-!
# The order of names

Texts are ordered by their bytes, and no two texts have the same bytes, so the
order is total.  A list of names that ascends strictly is determined by the
names in it.
-/

namespace SurveyCube.Text

theorem precedes_iff {a b : String} : precedes a b = true ↔ bytes a < bytes b :=
  decide_eq_true_iff

theorem precedes_trans {a b c : String} (first : precedes a b = true)
    (second : precedes b c = true) : precedes a c = true := by
  rw [precedes_iff] at *
  exact List.lt_trans first second

theorem ne_of_precedes {a b : String} (before : precedes a b = true) : a ≠ b := by
  rintro rfl
  exact List.lt_irrefl _ (precedes_iff.mp before)

theorem precedes_of_ne {a b : String} (different : a ≠ b) (behind : ¬ precedes a b = true) :
    precedes b a = true := by
  by_contra ahead
  rw [precedes_iff, List.not_lt] at behind ahead
  exact different (bytes_injective (List.le_antisymm ahead behind))

theorem notAfter_iff {a b : String} : notAfter a b = true ↔ bytes a ≤ bytes b := by
  rw [notAfter, precedes, Bool.not_eq_true', decide_eq_false_iff_not]
  exact Iff.rfl

theorem notAfter_trans (a b c : String) (first : notAfter a b = true)
    (second : notAfter b c = true) : notAfter a c = true := by
  rw [notAfter_iff] at *
  exact List.le_trans first second

theorem notAfter_total (a b : String) : (notAfter a b || notAfter b a) = true := by
  rw [Bool.or_eq_true, notAfter_iff, notAfter_iff]
  exact List.le_total _ _

theorem precedes_of_notAfter {a b : String} (order : notAfter a b = true) (different : a ≠ b) :
    precedes a b = true := by
  apply precedes_of_ne different.symm
  simpa [notAfter] using order

theorem precedes_of_precedes_of_notAfter {a b c : String} (before : precedes a b = true)
    (order : notAfter b c = true) : precedes a c = true := by
  by_cases same : b = c
  · rwa [← same]
  · exact precedes_trans before (precedes_of_notAfter order same)

/-! ## Ascending names -/

/-- The names ascend strictly. -/
def Ascending (names : List String) : Prop :=
  names.Pairwise fun a b => precedes a b = true

theorem Ascending.nodup {names : List String} (ascending : Ascending names) : names.Nodup :=
  ascending.imp ne_of_precedes

theorem Ascending.eq_of_mem_iff {names others : List String} (ascending : Ascending names)
    (otherAscending : Ascending others) (same : ∀ name, name ∈ names ↔ name ∈ others) :
    names = others := by
  have perm : names.Perm others :=
    (List.perm_ext_iff_of_nodup ascending.nodup otherAscending.nodup).mpr same
  refine perm.eq_of_pairwise ?_ ascending otherAscending
  intro a b _ _ before after
  exact absurd rfl (ne_of_precedes (precedes_trans before after))

end SurveyCube.Text
