import SurveyCube.Proofs.Bin

/-!
# Groups with keys

Bins, and the fragments of a plan, are groups: a group has a key and some
values, and the keys ascend from group to group.  `Grouped` says which entries
the groups hold together.

The entries determine the groups.  Two lists of groups with the same entries
have the same keys in the same order, and under each key the same values, though
perhaps in another order.
-/

namespace SurveyCube

variable {α β ν : Type} {key : α → Triple} {values : α → List ν} {groups : List α}
  {entries : List (Triple × ν)}

/-- The values of a group, each with its key. -/
def keyed (key : α → Triple) (values : α → List ν) (group : α) : List (Triple × ν) :=
  (values group).map fun value => (key group, value)

/-- The values that entries have under a key. -/
def valuesUnder (entries : List (Triple × ν)) (k : Triple) : List ν :=
  entries.filterMap fun entry => if entry.1 = k then some entry.2 else none

/-- The groups ascend, none is empty, and together they hold the entries. -/
structure Grouped (key : α → Triple) (values : α → List ν) (groups : List α)
    (entries : List (Triple × ν)) : Prop where
  ascending : (groups.map key).Pairwise (· < ·)
  full : ∀ group ∈ groups, values group ≠ []
  perm : (groups.flatMap (keyed key values)).Perm entries

theorem valuesUnder_keyed_self (group : α) :
    valuesUnder (keyed key values group) (key group) = values group := by
  rw [valuesUnder, keyed, List.filterMap_map]
  exact (List.filterMap_congr fun _ _ => if_pos rfl).trans List.filterMap_some

theorem valuesUnder_keyed_of_ne {group : α} {k : Triple} (differs : key group ≠ k) :
    valuesUnder (keyed key values group) k = [] := by
  rw [valuesUnder, keyed, List.filterMap_map, List.filterMap_eq_nil_iff]
  intro value _
  exact if_neg differs

theorem valuesUnder_append (front back : List (Triple × ν)) (k : Triple) :
    valuesUnder (front ++ back) k = valuesUnder front k ++ valuesUnder back k :=
  List.filterMap_append

theorem valuesUnder_flatMap_of_fresh {k : Triple} (fresh : k ∉ groups.map key) :
    valuesUnder (groups.flatMap (keyed key values)) k = [] := by
  induction groups with
  | nil => rfl
  | cons group rest ih =>
      rw [List.map_cons, List.mem_cons, not_or] at fresh
      rw [List.flatMap_cons, valuesUnder_append, ih fresh.2,
        valuesUnder_keyed_of_ne fun same => fresh.1 same.symm, List.append_nil]

theorem valuesUnder_flatMap (distinct : (groups.map key).Nodup) {group : α}
    (member : group ∈ groups) :
    valuesUnder (groups.flatMap (keyed key values)) (key group) = values group := by
  induction groups with
  | nil => cases member
  | cons first rest ih =>
      rw [List.map_cons, List.nodup_cons] at distinct
      rw [List.flatMap_cons, valuesUnder_append]
      rcases List.mem_cons.mp member with rfl | later
      · rw [valuesUnder_keyed_self, valuesUnder_flatMap_of_fresh distinct.1, List.append_nil]
      · have differs : key first ≠ key group := by
          intro same
          exact distinct.1 (same ▸ List.mem_map_of_mem later)
        rw [valuesUnder_keyed_of_ne differs, ih distinct.2 later, List.nil_append]

namespace Grouped

theorem mem_keys (grouped : Grouped key values groups entries) {k : Triple} :
    k ∈ groups.map key ↔ ∃ value, (k, value) ∈ entries := by
  simp only [← grouped.perm.mem_iff, List.mem_flatMap, List.mem_map, keyed]
  constructor
  · rintro ⟨group, member, rfl⟩
    obtain ⟨value, held⟩ := List.exists_mem_of_ne_nil _ (grouped.full group member)
    exact ⟨value, group, member, value, held, rfl⟩
  · rintro ⟨_, group, member, _, _, same⟩
    exact ⟨group, member, (Prod.mk.inj same).1⟩

theorem values_perm (grouped : Grouped key values groups entries) {group : α}
    (member : group ∈ groups) : (values group).Perm (valuesUnder entries (key group)) := by
  have held : valuesUnder (groups.flatMap (keyed key values)) (key group) = values group :=
    valuesUnder_flatMap (Triple.nodup_of_ascending grouped.ascending) member
  rw [← held]
  exact grouped.perm.filterMap _

variable {otherKey : β → Triple} {otherValues : β → List ν} {others : List β}

/-- Entries determine the keys of their groups. -/
theorem keys_eq (grouped : Grouped key values groups entries)
    (regrouped : Grouped otherKey otherValues others entries) :
    groups.map key = others.map otherKey := by
  apply Triple.eq_of_ascending grouped.ascending regrouped.ascending
  intro k
  rw [grouped.mem_keys, regrouped.mem_keys]

/-- Entries determine the values under a key, but for their order. -/
theorem same_values (grouped : Grouped key values groups entries)
    (regrouped : Grouped otherKey otherValues others entries) {group : α} {other : β}
    (member : group ∈ groups) (otherMember : other ∈ others) (same : key group = otherKey other) :
    (values group).Perm (otherValues other) := by
  have here := grouped.values_perm member
  rw [same] at here
  exact here.trans (regrouped.values_perm otherMember).symm

theorem paired (grouped : Grouped key values groups entries)
    (regrouped : Grouped otherKey otherValues others entries) :
    List.Forall₂ (fun group other => key group = otherKey other ∧
      (values group).Perm (otherValues other)) groups others := by
  obtain ⟨lengths, keys⟩ :=
    List.forall₂_iff_zip.mp (map_eq_map_iff_forall₂.mp (grouped.keys_eq regrouped))
  refine List.forall₂_iff_zip.mpr ⟨lengths, ?_⟩
  intro group other zipped
  obtain ⟨member, otherMember⟩ := List.of_mem_zip zipped
  have same := keys zipped
  exact ⟨same, grouped.same_values regrouped member otherMember same⟩

end Grouped

/-- Entries determine groups whose values ascend. -/
theorem Grouped.eq_of_ascending {key : α → Triple} {values : α → List Nat} {groups : List α}
    {otherKey : β → Triple} {otherValues : β → List Nat} {others : List β}
    {entries : List (Triple × Nat)} (grouped : Grouped key values groups entries)
    (regrouped : Grouped otherKey otherValues others entries)
    (sorted : ∀ group ∈ groups, (values group).Pairwise (· ≤ ·))
    (otherSorted : ∀ other ∈ others, (otherValues other).Pairwise (· ≤ ·)) :
    groups.map (fun group => (key group, values group)) =
      others.map fun other => (otherKey other, otherValues other) := by
  obtain ⟨lengths, pairs⟩ := List.forall₂_iff_zip.mp (grouped.paired regrouped)
  rw [map_eq_map_iff_forall₂, List.forall₂_iff_zip]
  refine ⟨lengths, ?_⟩
  intro group other zipped
  obtain ⟨member, otherMember⟩ := List.of_mem_zip zipped
  obtain ⟨same, perm⟩ := pairs zipped
  refine Prod.ext same
    (perm.eq_of_pairwise ?_ (sorted group member) (otherSorted other otherMember))
  intro a b _ _ below above
  exact Nat.le_antisymm below above

/-- Bins group the cells of their points. -/
theorem Bin.grouped {tiling : Tiling} {points : List CubePoint} {bins : List Bin}
    (made : ofPoints tiling points = .ok bins) :
    Grouped Bin.key Bin.offsets bins (points.map (entryOf tiling)) where
  ascending := keys_ascending made
  full _ member := offsets_ne_nil made member
  perm := entries_perm made

end SurveyCube
