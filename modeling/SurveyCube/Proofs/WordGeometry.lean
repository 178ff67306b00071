import SurveyCube.Proofs.Tiling

/-!
# Geometry in machine words

Numbers of cells are reckoned in machine words.  Products and sums that pass a word lose their
highest bits, and a divisor may lose all of them.

* `Shape.pointAt?_eq_ok` and `Shape.exists_planeOffsets?` say when the arithmetic of a shape
  divides by zero.
* `Tiling.FitsWords` holds of cubes and fragments whose cells can be counted in a word.  Then
  nothing is lost: `Tiling.wordGlobalOffset_rootOf` finds the number of every point of the cube.
-/

namespace SurveyCube

variable {number divisor n : Nat}

theorem quotient?_eq_ok :
    quotient? number divisor = .ok n ↔ divisor ≠ 0 ∧ number / divisor = n := by
  unfold quotient?
  by_cases zero : divisor = 0 <;> simp [zero]

theorem remainder?_eq_ok :
    remainder? number divisor = .ok n ↔ divisor ≠ 0 ∧ number % divisor = n := by
  unfold remainder?
  by_cases zero : divisor = 0 <;> simp [zero]

namespace Shape

variable {shape : Shape} {p : LocalPoint}

/-- A layer whose cells are counted is not empty. -/
theorem positive_of_wordLayer_ne_zero (counted : shape.wordLayer ≠ 0) :
    shape.y ≠ 0 ∧ shape.z ≠ 0 := by
  constructor
  · intro zero
    rw [wordLayer, zero, Nat.zero_mul, Nat.zero_mod] at counted
    exact counted rfl
  · intro zero
    rw [wordLayer, zero, Nat.mul_zero, Nat.zero_mod] at counted
    exact counted rfl

theorem pointAt?_eq_ok :
    pointAt? shape number = .ok p ↔ shape.wordLayer ≠ 0 ∧ shape.wordPointAt number = p := by
  unfold pointAt?
  simp only [bind_eq_ok, pure_eq_ok, quotient?_eq_ok, remainder?_eq_ok]
  constructor
  · rintro ⟨_, ⟨counted, rfl⟩, _, ⟨_, rfl⟩, _, ⟨_, rfl⟩, _, ⟨_, rfl⟩, rfl⟩
    exact ⟨counted, rfl⟩
  · rintro ⟨counted, rfl⟩
    obtain ⟨rows, columns⟩ := positive_of_wordLayer_ne_zero counted
    exact ⟨_, ⟨counted, rfl⟩, _, ⟨columns, rfl⟩, _, ⟨rows, rfl⟩, _, ⟨columns, rfl⟩, rfl⟩

/-- A plane is listed if there is one, and refused otherwise. -/
theorem planeOffsets?_eq (shape : Shape) (axis : Axis) (index : Nat) :
    planeOffsets? shape axis index =
      .ok (if index < shape.get axis then .ok ((plane shape axis index).map (wordOffset shape))
        else .error (.localIndexOutOfRange index (shape.get axis) axis)) := by
  unfold planeOffsets?
  by_cases inside : index < shape.get axis
  · have counted : quotient? shape.wordVolume (shape.get axis) = .ok _ :=
      quotient?_eq_ok.mpr ⟨Nat.ne_zero_of_lt inside, rfl⟩
    rw [if_pos inside, if_pos inside, counted]
    rfl
  · rw [if_neg inside, if_neg inside]
    rfl

/-! ## Shapes whose cells can be counted -/

theorem wordOffset_eq (few : shape.volume < wordLimit) (inside : p.Within shape) :
    shape.wordOffset p = shape.offset p :=
  Nat.mod_eq_of_lt (Nat.lt_trans (offset_lt_volume inside) few)

theorem wordLayer_eq (few : shape.volume < wordLimit) (positive : 0 < shape.x) :
    shape.wordLayer = shape.y * shape.z := by
  apply Nat.mod_eq_of_lt
  refine Nat.lt_of_le_of_lt ?_ few
  rw [Triple.volume, Nat.mul_assoc]
  exact Nat.le_mul_of_pos_left _ positive

theorem wordPointAt_eq (few : shape.volume < wordLimit) (positive : 0 < shape.x) (number : Nat) :
    shape.wordPointAt number = shape.pointAt number := by
  rw [wordPointAt, wordLayer_eq few positive, pointAt]

/-- Nothing is lost of the numbers in a plane. -/
theorem planeOffsets?_eq_planeOffsets (few : shape.volume < wordLimit) (axis : Axis)
    (index : Nat) : planeOffsets? shape axis index = .ok (planeOffsets shape axis index) := by
  rw [planeOffsets?_eq, planeOffsets]
  by_cases inside : index < shape.get axis
  · have same : (plane shape axis index).map (wordOffset shape) =
        (plane shape axis index).map (offset shape) :=
      List.map_congr_left fun p member =>
        wordOffset_eq few ((mem_plane_iff inside).mp member).1
    rw [if_pos inside, if_pos inside, same]
  · rw [if_neg inside, if_neg inside]

end Shape

namespace Tiling

variable {tiling : Tiling} {p : CubePoint}

/-- The cells of the cube, and those of a fragment, can be counted in a machine word. -/
structure FitsWords (tiling : Tiling) : Prop where
  cube : tiling.cube.volume < wordLimit
  fragment : tiling.fragment.volume < wordLimit

theorem get_le_volume {shape : Shape} (positive : shape.Positive) (axis : Axis) :
    shape.get axis ≤ shape.volume := by
  obtain ⟨x, y, z⟩ := positive
  cases axis with
  | inline => exact Nat.le_trans (Nat.le_mul_of_pos_right _ y) (Nat.le_mul_of_pos_right _ z)
  | crossline => exact Nat.le_trans (Nat.le_mul_of_pos_left _ x) (Nat.le_mul_of_pos_right _ z)
  | depth => exact Nat.le_mul_of_pos_left _ (Nat.mul_pos x y)

theorem wordGlobalOf_rootOf (fits : tiling.FitsWords) (inside : p.Within tiling.cube) :
    tiling.wordGlobalOf (tiling.rootOf p) (tiling.localOf p) = p := by
  apply Triple.ext_get
  intro axis
  have below : p.get axis < wordLimit :=
    Nat.lt_of_lt_of_le (Triple.within_iff.mp inside axis)
      (Nat.le_trans (get_le_volume tiling.cube_pos axis) (Nat.le_of_lt fits.cube))
  have whole := congrArg (Triple.get · axis) (tiling.globalOf_rootOf_localOf p)
  simp only [get_globalOf] at whole
  rw [wordGlobalOf, Triple.get_ofFn, whole]
  exact Nat.mod_eq_of_lt below

/-- The number of a point of the cube is found from its cell in its fragment. -/
theorem wordGlobalOffset_rootOf (fits : tiling.FitsWords) (inside : p.Within tiling.cube) :
    tiling.wordGlobalOffset (Shape.offset tiling.fragment (tiling.localOf p)) (tiling.rootOf p) =
      .ok (Shape.offset tiling.cube p) := by
  have here := tiling.localOf_within p
  have counted : tiling.fragment.wordVolume = tiling.fragment.volume :=
    Nat.mod_eq_of_lt fits.fragment
  rw [wordGlobalOffset, counted, if_pos (Shape.offset_lt_volume here),
    Shape.wordPointAt_eq fits.fragment tiling.fragment_pos.1, Shape.pointAt_offset here,
    wordGlobalOf_rootOf fits inside, inside_of_within inside]
  exact congrArg Except.ok (Shape.wordOffset_eq fits.cube inside)

/-- The arithmetic behind the number of a cell never divides by zero: where the cells of a layer
lose all of their bits, so do those of the fragment, and every offset is refused. -/
theorem pointAt?_of_lt_wordVolume (below : number < tiling.fragment.wordVolume) :
    Shape.pointAt? tiling.fragment number = .ok (Shape.wordPointAt tiling.fragment number) := by
  refine Shape.pointAt?_eq_ok.mpr ⟨?_, rfl⟩
  intro lost
  have none : tiling.fragment.wordVolume = 0 := by
    rw [Triple.wordVolume, Triple.volume, Nat.mul_assoc]
    exact Nat.mod_eq_zero_of_dvd (Nat.dvd_mul_left_of_dvd (Nat.dvd_of_mod_eq_zero lost) _)
  rw [none] at below
  exact absurd below (Nat.not_lt_zero number)

end Tiling

end SurveyCube
