import SurveyCube.Tiling
import SurveyCube.Proofs.Outcome
import SurveyCube.Proofs.Shape

/-!
# The points of a cube and the cells of its fragments

* A global point and the pair of its fragment and its place there determine
  each other.
* The fragments in the grid are those whose first cell lies in the cube.
* The global number of a cell exists exactly for the cells that lie in the
  cube; the others are padding of a partial fragment.
-/

namespace SurveyCube.Tiling

variable {tiling : Tiling}

/-! ## The grid of fragments -/

/-- A fragment is in the grid when its first cell is in the cube. -/
theorem lt_count_iff {axis : Axis} {i : Nat} :
    i < tiling.count axis ↔ i * tiling.fragment.get axis < tiling.cube.get axis := by
  have positive : 0 < tiling.fragment.get axis := tiling.fragment_get_pos axis
  rw [count, ← Nat.succ_le_iff, Nat.le_div_iff_mul_le positive, Nat.succ_mul]
  omega

/-- A cube has no more fragments than cells along an axis. -/
theorem lt_cube_of_lt_count {axis : Axis} {i : Nat} (inside : i < tiling.count axis) :
    i < tiling.cube.get axis := by
  rw [lt_count_iff] at inside
  exact Nat.lt_of_le_of_lt (Nat.le_mul_of_pos_right i (tiling.fragment_get_pos axis)) inside

theorem div_lt_count {axis : Axis} {i : Nat} (inside : i < tiling.cube.get axis) :
    i / tiling.fragment.get axis < tiling.count axis := by
  rw [lt_count_iff]
  exact Nat.lt_of_le_of_lt (Nat.div_mul_le_self i _) inside

theorem get_counts (tiling : Tiling) (axis : Axis) : tiling.counts.get axis = tiling.count axis :=
  Triple.get_ofFn tiling.count axis

theorem rootOf_within {p : CubePoint} (inside : p.Within tiling.cube) :
    (tiling.rootOf p).Within tiling.counts := by
  rw [Triple.within_iff] at *
  intro axis
  rw [get_counts, rootOf, Triple.get_ofFn]
  exact div_lt_count (inside axis)

/-! ## Global points and cells -/

section Cells

variable {id : FragmentId} {cell : LocalPoint}

theorem get_globalOf (tiling : Tiling) (id : FragmentId) (cell : LocalPoint) (axis : Axis) :
    (tiling.globalOf id cell).get axis =
      id.get axis * tiling.fragment.get axis + cell.get axis :=
  Triple.get_ofFn _ axis

theorem rootOf_globalOf (id : FragmentId) (inside : cell.Within tiling.fragment) :
    tiling.rootOf (tiling.globalOf id cell) = id := by
  rw [Triple.within_iff] at inside
  apply Triple.ext_get
  intro axis
  have positive : 0 < tiling.fragment.get axis := tiling.fragment_get_pos axis
  rw [rootOf, Triple.get_ofFn, get_globalOf, Nat.add_comm, Nat.add_mul_div_right _ _ positive,
    Nat.div_eq_of_lt (inside axis), Nat.zero_add]

theorem localOf_globalOf (id : FragmentId) (inside : cell.Within tiling.fragment) :
    tiling.localOf (tiling.globalOf id cell) = cell := by
  rw [Triple.within_iff] at inside
  apply Triple.ext_get
  intro axis
  rw [localOf, Triple.get_ofFn, get_globalOf, Nat.add_comm, Nat.add_mul_mod_self_right,
    Nat.mod_eq_of_lt (inside axis)]

/-- The cell of a fragment at a global point is the place of the point there. -/
theorem globalOf_eq_iff (inside : cell.Within tiling.fragment) {p : CubePoint} :
    tiling.globalOf id cell = p ↔ id = tiling.rootOf p ∧ cell = tiling.localOf p := by
  constructor
  · rintro rfl
    exact ⟨(rootOf_globalOf id inside).symm, (localOf_globalOf id inside).symm⟩
  · rintro ⟨rfl, rfl⟩
    exact tiling.globalOf_rootOf_localOf p

theorem globalOf_get_iff {axis : Axis} {index : Nat} (inside : cell.Within tiling.fragment) :
    (tiling.globalOf id cell).get axis = index ↔
      id.get axis = index / tiling.fragment.get axis ∧
        cell.get axis = index % tiling.fragment.get axis := by
  constructor
  · rintro rfl
    have root := congrArg (fun t => Triple.get t axis) (rootOf_globalOf id inside)
    have place := congrArg (fun t => Triple.get t axis) (localOf_globalOf id inside)
    simp only [rootOf, localOf, Triple.get_ofFn] at root place
    exact ⟨root.symm, place.symm⟩
  · rintro ⟨root, place⟩
    rw [get_globalOf, root, place, Nat.div_add_mod']

end Cells

/-! ## Global numbers -/

theorem inside_of_within {p : CubePoint} (inside : p.Within tiling.cube) :
    tiling.inside p = .ok p :=
  if_pos inside

theorem inside_eq_ok {p q : CubePoint} :
    tiling.inside p = .ok q ↔ p.Within tiling.cube ∧ p = q := by
  unfold Tiling.inside
  split
  · rename_i within
    simp [within]
  · rename_i outside
    simp [outside]

theorem inside_eq_error {p : CubePoint} {fault : Fault} :
    tiling.inside p = .error fault ↔
      ¬ p.Within tiling.cube ∧ .pointOutsideCube p tiling.cube = fault := by
  unfold Tiling.inside
  split
  · rename_i within
    simp [within]
  · rename_i outside
    simp [outside]

/-- The cell of a fragment has the number of its global point, if the cube has
the point. -/
theorem globalOffset_offset {id : FragmentId} {cell : LocalPoint}
    (inside : cell.Within tiling.fragment) :
    tiling.globalOffset (Shape.offset tiling.fragment cell) id =
      (tiling.inside (tiling.globalOf id cell)).map (Shape.offset tiling.cube) := by
  rw [globalOffset, if_pos (Shape.offset_lt_volume inside), Shape.pointAt_offset inside]

/-- The fragment of a point and the offset of its place lead back to the point. -/
theorem globalOf_rootOf_pointAt (tiling : Tiling) (p : CubePoint) :
    tiling.globalOf (tiling.rootOf p)
      (Shape.pointAt tiling.fragment (Shape.offset tiling.fragment (tiling.localOf p))) = p := by
  rw [Shape.pointAt_offset (tiling.localOf_within p), globalOf_rootOf_localOf]

/-- The place of a point of the cube leads back to the number of the point. -/
theorem globalOffset_rootOf {p : CubePoint} (inside : p.Within tiling.cube) :
    tiling.globalOffset (Shape.offset tiling.fragment (tiling.localOf p)) (tiling.rootOf p) =
      .ok (Shape.offset tiling.cube p) := by
  rw [globalOffset_offset (tiling.localOf_within p), globalOf_rootOf_localOf,
    inside_of_within inside]
  rfl

end SurveyCube.Tiling
