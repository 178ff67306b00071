import Mathlib.Algebra.Group.Nat.Defs
import Mathlib.Data.List.Sort
import SurveyCube.Shape

/-!
# Row-major offsets and planes

* Points of a box and numbers below its volume correspond: `Shape.offset` and
  `Shape.pointAt` are inverse to each other.
* Offsets are ordered as the points are.
* A plane lists its points in ascending order, so none of them twice.
-/

namespace SurveyCube

namespace Triple

theorem nodup_of_ascending {points : List Triple} (ascending : points.Pairwise (· < ·)) :
    points.Nodup := by
  refine List.Pairwise.imp ?_ ascending
  intro a b before same
  rw [same] at before
  exact lt_irrefl b before

/-- Items whose triples ascend are listed in one way only. -/
theorem eq_of_ascending {α : Type} {key : α → Triple} {items others : List α}
    (ascending : items.Pairwise fun a b => key a < key b)
    (otherAscending : others.Pairwise fun a b => key a < key b)
    (same : ∀ item, item ∈ items ↔ item ∈ others) : items = others := by
  have irreflexive : Std.Irrefl fun a b : α => key a < key b := ⟨fun a => lt_irrefl (key a)⟩
  have antisymmetric : Std.Antisymm fun a b : α => key a < key b :=
    ⟨fun a _ before after => absurd (lt_trans before after) (lt_irrefl (key a))⟩
  exact ascending.eq_of_mem_iff otherAscending same

theorem not_within_iff {t bound : Triple} :
    ¬ t.Within bound ↔ ∃ axis, bound.get axis ≤ t.get axis := by
  rw [within_iff]
  simp

theorem toList_set (t : Triple) (axis : Axis) (value : Nat) :
    (t.set axis value).toList = t.toList.set axis.index value := by
  cases axis <;> rfl

theorem prod_toList (t : Triple) : t.toList.prod = t.volume := by
  simp [toList, volume, Nat.mul_assoc]

end Triple

namespace Shape

variable {shape : Shape} {p : Triple}

/-! ## Offsets -/

/-- The offset counts rows, and cells in the last row. -/
theorem offset_eq (shape : Shape) (p : Triple) :
    offset shape p = p.z + (p.y + p.x * shape.y) * shape.z := by
  rw [offset, Nat.add_mul, Nat.add_comm (p.x * shape.y * shape.z), Nat.add_comm]

theorem row_lt {i n row rows : Nat} (inside : i < n) (below : row < rows) :
    i + row * n < rows * n := by
  have next : (row + 1) * n ≤ rows * n := Nat.mul_le_mul_right n below
  rw [Nat.add_mul, Nat.one_mul] at next
  omega

theorem offset_lt_volume (inside : p.Within shape) : offset shape p < shape.volume := by
  obtain ⟨x, y, z⟩ := inside
  rw [offset_eq, Triple.volume]
  exact row_lt z (row_lt y x)

theorem pointAt_offset (inside : p.Within shape) : pointAt shape (offset shape p) = p := by
  obtain ⟨_, y, z⟩ := inside
  have positive_y : 0 < shape.y := Nat.zero_lt_of_lt y
  have positive_z : 0 < shape.z := Nat.zero_lt_of_lt z
  have row : offset shape p / shape.z = p.y + p.x * shape.y := by
    rw [offset_eq, Nat.add_mul_div_right _ _ positive_z, Nat.div_eq_of_lt z, Nat.zero_add]
  apply Triple.ext
  · change offset shape p / (shape.y * shape.z) = p.x
    rw [Nat.mul_comm, ← Nat.div_div_eq_div_mul, row, Nat.add_mul_div_right _ _ positive_y,
      Nat.div_eq_of_lt y, Nat.zero_add]
  · change offset shape p / shape.z % shape.y = p.y
    rw [row, Nat.add_mul_mod_self_right, Nat.mod_eq_of_lt y]
  · change offset shape p % shape.z = p.z
    rw [offset_eq, Nat.add_mul_mod_self_right, Nat.mod_eq_of_lt z]

theorem offset_pointAt (shape : Shape) (n : Nat) : offset shape (pointAt shape n) = n := by
  have rows : n / shape.z % shape.y + n / (shape.y * shape.z) * shape.y = n / shape.z := by
    rw [Nat.mul_comm shape.y, ← Nat.div_div_eq_div_mul, Nat.mul_comm, Nat.mod_add_div]
  rw [offset_eq]
  simp only [pointAt]
  rw [rows, Nat.mul_comm, Nat.mod_add_div]

theorem pointAt_within {n : Nat} (inside : n < shape.volume) :
    (pointAt shape n).Within shape := by
  have positive : 0 < shape.x * shape.y * shape.z := Nat.zero_lt_of_lt inside
  have positive_z : 0 < shape.z := Nat.pos_of_mul_pos_left positive
  have positive_y : 0 < shape.y := Nat.pos_of_mul_pos_left (Nat.pos_of_mul_pos_right positive)
  refine ⟨?_, Nat.mod_lt _ positive_y, Nat.mod_lt _ positive_z⟩
  rw [Triple.volume, Nat.mul_assoc] at inside
  exact Nat.div_lt_of_lt_mul (by rwa [Nat.mul_comm])

theorem offset_injective {q : Triple} (inside : p.Within shape) (other : q.Within shape)
    (same : offset shape p = offset shape q) : p = q := by
  rw [← pointAt_offset inside, same, pointAt_offset other]

theorem offset_lt {q : Triple} (here : p.Within shape) (before : p < q) :
    offset shape p < offset shape q := by
  rw [offset_eq, offset_eq]
  rcases Triple.lt_def.mp before with first | ⟨sameFirst, second | ⟨sameSecond, third⟩⟩
  · have rows : p.y + p.x * shape.y < q.x * shape.y := row_lt here.2.1 first
    have cells := row_lt here.2.2 (Nat.lt_of_lt_of_le rows (Nat.le_add_left _ q.y))
    exact Nat.lt_of_lt_of_le cells (Nat.le_add_left _ q.z)
  · have rows : p.y + p.x * shape.y < q.y + q.x * shape.y := by
      rw [sameFirst]
      exact Nat.add_lt_add_right second _
    exact Nat.lt_of_lt_of_le (row_lt here.2.2 rows) (Nat.le_add_left _ q.z)
  · rw [sameFirst, sameSecond]
    exact Nat.add_lt_add_right third _

/-- Numbers order the points of a box as the lexicographic order does. -/
theorem offset_lt_iff {q : Triple} (here : p.Within shape) (there : q.Within shape) :
    offset shape p < offset shape q ↔ p < q := by
  constructor
  · intro before
    rcases Triple.lt_or_eq_or_gt p q with order | same | reversed
    · exact order
    · rw [same] at before
      exact absurd before (Nat.lt_irrefl _)
    · exact absurd (offset_lt there reversed) (Nat.lt_asymm before)
  · exact offset_lt here

/-! ## Planes -/

theorem axisSpan_ascending (extents : Shape) (fixed : Axis) (pin : Nat) (axis : Axis) :
    (axisSpan extents fixed pin axis).Pairwise (· < ·) := by
  unfold axisSpan
  split
  · exact List.pairwise_singleton _ pin
  · exact List.pairwise_lt_range

/-- Lists that are ordered along an ascending list join to an ordered list. -/
theorem pairwise_flatMap_of_ascending
    {α : Type} {R : α → α → Prop} {rows : List Nat} {row : Nat → List α}
    (ascending : rows.Pairwise (· < ·)) (inner : ∀ i ∈ rows, (row i).Pairwise R)
    (outer : ∀ i j, i < j → ∀ a ∈ row i, ∀ b ∈ row j, R a b) :
    (rows.flatMap row).Pairwise R := by
  rw [List.pairwise_flatMap]
  refine ⟨inner, List.Pairwise.imp ?_ ascending⟩
  intro i j before a here b there
  exact outer i j before a here b there

theorem plane_ascending (extents : Shape) (fixed : Axis) (pin : Nat) :
    (plane extents fixed pin).Pairwise (· < ·) := by
  unfold plane
  apply pairwise_flatMap_of_ascending (axisSpan_ascending extents fixed pin .inline)
  · intro x _
    apply pairwise_flatMap_of_ascending (axisSpan_ascending extents fixed pin .crossline)
    · intro y _
      rw [List.pairwise_map]
      refine List.Pairwise.imp ?_ (axisSpan_ascending extents fixed pin .depth)
      intro i j before
      exact Triple.lt_def.mpr (Or.inr ⟨rfl, Or.inr ⟨rfl, before⟩⟩)
    · intro i j before a here b there
      simp only [List.mem_map] at here there
      obtain ⟨_, _, rfl⟩ := here
      obtain ⟨_, _, rfl⟩ := there
      exact Triple.lt_def.mpr (Or.inr ⟨rfl, Or.inl before⟩)
  · intro i j before a here b there
    simp only [List.mem_flatMap, List.mem_map] at here there
    obtain ⟨_, _, _, _, rfl⟩ := here
    obtain ⟨_, _, _, _, rfl⟩ := there
    exact Triple.lt_def.mpr (Or.inl before)

theorem plane_nodup (extents : Shape) (fixed : Axis) (pin : Nat) :
    (plane extents fixed pin).Nodup :=
  Triple.nodup_of_ascending (plane_ascending extents fixed pin)

/-- A plane has as many points as the box would have with one index along the
fixed axis. -/
theorem length_plane (extents : Shape) (fixed : Axis) (pin : Nat) :
    (plane extents fixed pin).length = (extents.set fixed 1).volume := by
  have span (axis : Axis) :
      (axisSpan extents fixed pin axis).length = (extents.set fixed 1).get axis := by
    rw [Triple.set, Triple.get_ofFn]
    unfold axisSpan
    split
    · rfl
    · exact List.length_range
  have x := span .inline
  have y := span .crossline
  have z := span .depth
  simp only [Triple.get] at x y z
  simp only [plane, List.length_flatMap, List.length_map, List.map_const', List.sum_replicate_nat,
    x, y, z, Triple.volume, Nat.mul_assoc]

/-- A plane that meets the box consists of its points with the index of the plane. -/
theorem mem_plane_iff
    {extents : Shape} {fixed : Axis} {pin : Nat} (meets : pin < extents.get fixed) :
    p ∈ plane extents fixed pin ↔ p.Within extents ∧ p.get fixed = pin := by
  rw [mem_plane, Triple.within_iff]
  constructor
  · intro along
    have pinned : p.get fixed = pin := by
      simpa using along fixed
    refine ⟨?_, pinned⟩
    intro axis
    by_cases same : axis = fixed
    · rw [same, pinned]
      exact meets
    · simpa [same] using along axis
  · rintro ⟨inside, pinned⟩ axis
    by_cases same : axis = fixed
    · simpa [same] using pinned
    · simpa [same] using inside axis

end Shape

end SurveyCube
