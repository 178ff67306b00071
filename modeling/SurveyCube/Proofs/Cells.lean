import Mathlib.Data.Set.Function
import Mathlib.Order.Interval.Set.Defs
import SurveyCube.Proofs.Tiling

/-!
# Fragments address the cube once

A cell is named by a fragment and an offset inside the fragment.

* `Tiling.Locates` ties a cell to the point of the cube that it stores.  A cell
  has a number in the cube exactly if there is such a point, and then there is
  one only.
* Cells with a number and numbers below the volume of the cube correspond to
  each other.
* The first cell of every fragment in the grid has a number, so no fragment is
  all padding.
-/

namespace SurveyCube.Tiling

variable {tiling : Tiling} {id : FragmentId} {offset n : Nat} {p q : CubePoint}

/-! ## Fragments and places of points -/

theorem fragmentOf_eq_ok :
    tiling.fragmentOf p = .ok id ↔ p.Within tiling.cube ∧ tiling.rootOf p = id := by
  rw [fragmentOf, map_eq_ok]
  constructor
  · rintro ⟨found, checked, root⟩
    obtain ⟨inside, same⟩ := inside_eq_ok.mp checked
    subst same
    exact ⟨inside, root⟩
  · rintro ⟨inside, root⟩
    exact ⟨p, inside_of_within inside, root⟩

theorem placeOf_of_within (inside : p.Within tiling.cube) :
    tiling.placeOf p = .ok (tiling.localOf p) := by
  have checked : tiling.inside p = .ok p := inside_of_within inside
  rw [placeOf, checked]
  rfl

/-! ## Cells and points -/

/-- The point of the cube with number `n` is stored at an offset of a fragment. -/
structure Locates (tiling : Tiling) (id : FragmentId) (offset n : Nat) (p : CubePoint) : Prop where
  inside : p.Within tiling.cube
  number : Shape.offset tiling.cube p = n
  fragment : tiling.fragmentOf p = .ok id
  place : Shape.offset tiling.fragment (tiling.localOf p) = offset

/-- Two points with one number are one point. -/
theorem Locates.unique
    {other : FragmentId} {further : Nat} (here : tiling.Locates id offset n p)
    (there : tiling.Locates other further n q) : p = q := by
  have sameNumber : Shape.offset tiling.cube p = Shape.offset tiling.cube q := by
    rw [here.number, there.number]
  exact Shape.offset_injective here.inside there.inside sameNumber

theorem Locates.number_lt (located : tiling.Locates id offset n p) : n < tiling.cube.volume := by
  have below := Shape.offset_lt_volume located.inside
  rwa [located.number] at below

/-- A cell has a number if it stores a point of the cube. -/
theorem Locates.globalOffset_eq (located : tiling.Locates id offset n p) :
    tiling.globalOffset offset id = .ok n := by
  obtain ⟨_, root⟩ := fragmentOf_eq_ok.mp located.fragment
  have found := globalOffset_rootOf located.inside
  rwa [located.place, root, located.number] at found

theorem locates_of_within (inside : p.Within tiling.cube) :
    tiling.Locates (tiling.rootOf p) (Shape.offset tiling.fragment (tiling.localOf p))
      (Shape.offset tiling.cube p) p where
  inside := inside
  number := rfl
  fragment := fragmentOf_eq_ok.mpr ⟨inside, rfl⟩
  place := rfl

theorem globalOffset_eq_ok_iff :
    tiling.globalOffset offset id = .ok n ↔ ∃ p, tiling.Locates id offset n p := by
  constructor
  · intro found
    by_cases below : offset < tiling.fragment.volume
    · rw [globalOffset, if_pos below] at found
      obtain ⟨point, checked, number⟩ := map_eq_ok.mp found
      obtain ⟨inside, same⟩ := inside_eq_ok.mp checked
      subst same
      have cell : (Shape.pointAt tiling.fragment offset).Within tiling.fragment :=
        Shape.pointAt_within below
      have root := rootOf_globalOf id cell
      have place := localOf_globalOf id cell
      refine ⟨_, inside, number, fragmentOf_eq_ok.mpr ⟨inside, root⟩, ?_⟩
      rw [place, Shape.offset_pointAt]
    · rw [globalOffset, if_neg below] at found
      cases found
  · rintro ⟨p, located⟩
    exact located.globalOffset_eq

/-- A cell without a number is refused as out of range. -/
theorem kind_of_globalOffset_eq_error
    {fault : Fault} (refused : tiling.globalOffset offset id = .error fault) :
    fault.kind = .outOfRange := by
  by_cases below : offset < tiling.fragment.volume
  · rw [globalOffset, if_pos below, map_eq_error, inside_eq_error] at refused
    rw [← refused.2]
    rfl
  · rw [globalOffset, if_neg below] at refused
    cases refused
    rfl

/-! ## Cells and numbers -/

/-- The cells that have a number in the cube. -/
def cells (tiling : Tiling) : Set (FragmentId × Nat) :=
  { cell | ∃ n, tiling.globalOffset cell.2 cell.1 = .ok n }

/-- The number of a cell; padding counts as zero. -/
def cellNumber (tiling : Tiling) (cell : FragmentId × Nat) : Nat :=
  (tiling.globalOffset cell.2 cell.1).toOption.getD 0

theorem locates_of_mem_cells {cell : FragmentId × Nat} (member : cell ∈ tiling.cells) :
    ∃ p, tiling.Locates cell.1 cell.2 (tiling.cellNumber cell) p := by
  obtain ⟨n, found⟩ := member
  have number : tiling.cellNumber cell = n := by
    rw [cellNumber, found]
    rfl
  rw [number]
  exact globalOffset_eq_ok_iff.mp found

theorem Locates.mem_cells (located : tiling.Locates id offset n p) :
    (id, offset) ∈ tiling.cells ∧ tiling.cellNumber (id, offset) = n := by
  have found := located.globalOffset_eq
  refine ⟨⟨n, found⟩, ?_⟩
  rw [cellNumber, found]
  rfl

theorem cellNumber_mapsTo (tiling : Tiling) :
    Set.MapsTo tiling.cellNumber tiling.cells (Set.Iio tiling.cube.volume) := by
  intro cell member
  obtain ⟨p, located⟩ := locates_of_mem_cells member
  exact located.number_lt

theorem cellNumber_injOn (tiling : Tiling) : Set.InjOn tiling.cellNumber tiling.cells := by
  intro cell here other there same
  obtain ⟨p, located⟩ := locates_of_mem_cells here
  obtain ⟨q, further⟩ := locates_of_mem_cells there
  rw [← same] at further
  -- One number belongs to one point, and a point is stored in one cell.
  have point : p = q := located.unique further
  subst point
  have sameFragment : cell.1 = other.1 :=
    Except.ok.inj (located.fragment.symm.trans further.fragment)
  exact Prod.ext sameFragment (located.place.symm.trans further.place)

theorem cellNumber_surjOn (tiling : Tiling) :
    Set.SurjOn tiling.cellNumber tiling.cells (Set.Iio tiling.cube.volume) := by
  intro n below
  have inside : (Shape.pointAt tiling.cube n).Within tiling.cube := Shape.pointAt_within below
  obtain ⟨member, number⟩ := (locates_of_within inside).mem_cells
  refine ⟨_, member, ?_⟩
  rw [number, Shape.offset_pointAt]

/-- The first cell of a fragment in the grid is a cell of the cube. -/
theorem exists_mem_cells (grid : id.Within tiling.counts) :
    ∃ offset, (id, offset) ∈ tiling.cells := by
  have first : Triple.origin.Within tiling.fragment := tiling.fragment_pos
  have inside : (tiling.globalOf id .origin).Within tiling.cube := by
    rw [Triple.within_iff] at *
    intro axis
    have along := grid axis
    rw [get_counts, lt_count_iff] at along
    rw [get_globalOf]
    cases axis <;> exact along
  have located := locates_of_within inside
  rw [rootOf_globalOf id first] at located
  exact ⟨_, located.mem_cells.1⟩

/-! ## The cube as a whole -/

/-- Every point of the cube is stored in one cell of a fragment in the grid, and
every cell that is no padding stores one point of the cube. -/
theorem fragments_address_cube_once (tiling : Tiling) :
    (∀ p : CubePoint, p.Within tiling.cube → ∃ id cell,
      tiling.fragmentOf p = .ok id ∧ tiling.placeOf p = .ok cell ∧
        id.Within tiling.counts ∧ cell.Within tiling.fragment ∧ tiling.globalOf id cell = p ∧
        tiling.globalOffset (Shape.offset tiling.fragment cell) id =
          .ok (Shape.offset tiling.cube p)) ∧
    (∀ id offset n, tiling.globalOffset offset id = .ok n ↔
      n < tiling.cube.volume ∧ ∃! p, tiling.Locates id offset n p) ∧
    (∀ id offset, (¬ ∃ n, n < tiling.cube.volume ∧ ∃! p, tiling.Locates id offset n p) →
      ∃ fault, tiling.globalOffset offset id = .error fault ∧ fault.kind = .outOfRange) ∧
    Set.BijOn tiling.cellNumber tiling.cells (Set.Iio tiling.cube.volume) ∧
    (∀ id : FragmentId, id.Within tiling.counts → ∃ offset, (id, offset) ∈ tiling.cells) := by
  have numbered : ∀ id offset n, tiling.globalOffset offset id = .ok n ↔
      n < tiling.cube.volume ∧ ∃! p, tiling.Locates id offset n p := by
    intro id offset n
    rw [globalOffset_eq_ok_iff]
    constructor
    · rintro ⟨p, located⟩
      exact ⟨located.number_lt, p, located, fun _ further => further.unique located⟩
    · rintro ⟨_, unique⟩
      exact unique.exists
  refine ⟨?_, numbered, ?_, ?_, ?_⟩
  · intro p inside
    refine ⟨_, _, fragmentOf_eq_ok.mpr ⟨inside, rfl⟩, placeOf_of_within inside, ?_, ?_, ?_, ?_⟩
    · exact rootOf_within inside
    · exact localOf_within tiling p
    · exact tiling.globalOf_rootOf_localOf p
    · exact globalOffset_rootOf inside
  · intro id offset absent
    cases outcome : tiling.globalOffset offset id with
    | ok n => exact absurd ⟨n, (numbered id offset n).mp outcome⟩ absent
    | error fault => exact ⟨fault, rfl, kind_of_globalOffset_eq_error outcome⟩
  · exact ⟨cellNumber_mapsTo tiling, cellNumber_injOn tiling, cellNumber_surjOn tiling⟩
  · intro id grid
    exact exists_mem_cells grid

/-- Three by two traces of three samples, with partial fragments along two axes. -/
def partialTiling : Tiling where
  cube := ⟨3, 2, 3⟩
  fragment := ⟨2, 2, 2⟩
  cube_pos := by decide
  fragment_pos := by decide

/-- The last point lies in a fragment that is mostly padding. -/
theorem partialTiling_addresses_last_point :
    ∃ id cell, partialTiling.fragmentOf ⟨2, 1, 2⟩ = .ok id ∧
      partialTiling.placeOf ⟨2, 1, 2⟩ = .ok cell ∧ partialTiling.globalOf id cell = ⟨2, 1, 2⟩ ∧
      partialTiling.globalOffset (Shape.offset partialTiling.fragment cell) id = .ok 17 := by
  obtain ⟨id, cell, fragment, place, _, _, point, number⟩ :=
    (fragments_address_cube_once partialTiling).1 ⟨2, 1, 2⟩ (by decide)
  exact ⟨id, cell, fragment, place, point, number⟩

end SurveyCube.Tiling
