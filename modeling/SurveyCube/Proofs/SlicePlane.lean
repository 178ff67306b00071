import SurveyCube.Proofs.Agreement

/-!
# Slices cut planes

A slice lists the fragments that a plane of the cube meets, and the local plane
lists the cells of the plane in any of them.  `Tiling.CutsPlane` says what the
two lists are together: a cell of the one in a fragment of the other is a cell
of the plane or padding, every cell of the plane is one of these, and no fragment
is listed in vain.
-/

namespace SurveyCube.Tiling

variable {tiling : Tiling} {axis : Axis} {index : Nat} {ids : List FragmentId}
  {offsets : List Nat}

theorem slice_eq_error {fault : Fault} :
    tiling.slice axis index = .error fault ↔
      tiling.cube.get axis ≤ index ∧
        .indexOutOfRange index (tiling.cube.get axis) axis = fault := by
  unfold slice
  split
  · rename_i inside
    simp [Nat.not_le.mpr inside]
  · rename_i outside
    simp [Nat.not_lt.mp outside]

/-- The cells at given offsets of given fragments that have a number. -/
def cellsAmong (tiling : Tiling) (ids : List FragmentId) (offsets : List Nat) :
    Set (FragmentId × Nat) :=
  { cell | cell.1 ∈ ids ∧ cell.2 ∈ offsets ∧ cell ∈ tiling.cells }

/-- The numbers of the points of a plane of the cube. -/
def planeNumbers (tiling : Tiling) (axis : Axis) (index : Nat) : Set Nat :=
  { n | ∃ p : CubePoint, p.Within tiling.cube ∧ p.get axis = index ∧
    Shape.offset tiling.cube p = n }

/-- The offsets, taken in each of the fragments, are those of a plane of the cube. -/
structure CutsPlane (tiling : Tiling) (axis : Axis) (index : Nat) (ids : List FragmentId)
    (offsets : List Nat) : Prop where
  ids_ascending : ids.Pairwise (· < ·)
  offsets_ascending : offsets.Pairwise (· < ·)
  numbers : Set.BijOn tiling.cellNumber (tiling.cellsAmong ids offsets)
    (tiling.planeNumbers axis index)
  /-- A cell without a number lies in the plane, but past the cube along another axis. -/
  padding : ∀ id ∈ ids, ∀ offset ∈ offsets, ∀ fault,
    tiling.globalOffset offset id = .error fault →
      ∃ p : CubePoint, p = tiling.globalOf id (Shape.pointAt tiling.fragment offset) ∧
        fault = .pointOutsideCube p tiling.cube ∧ p.get axis = index ∧
        ∃ other, other ≠ axis ∧ tiling.cube.get other ≤ p.get other
  /-- Every fragment has a cell of the plane. -/
  meets : ∀ id ∈ ids, ∃ offset ∈ offsets, (id, offset) ∈ tiling.cells

/-! ## Cells of the plane -/

theorem get_eq_iff (tiling : Tiling) (p : CubePoint) :
    p.get axis = index ↔
      (tiling.rootOf p).get axis = index / tiling.fragment.get axis ∧
        (tiling.localOf p).get axis = index % tiling.fragment.get axis := by
  rw [← globalOf_get_iff (tiling.localOf_within p), globalOf_rootOf_localOf]

/-- The offsets of the local plane. -/
def localPlane (tiling : Tiling) (axis : Axis) (index : Nat) : List Nat :=
  (Shape.plane tiling.fragment axis (index % tiling.fragment.get axis)).map
    (Shape.offset tiling.fragment)

theorem offset_mem_localPlane {cell : LocalPoint} (inside : cell.Within tiling.fragment) :
    Shape.offset tiling.fragment cell ∈ tiling.localPlane axis index ↔
      cell.get axis = index % tiling.fragment.get axis := by
  rw [localPlane, List.mem_map]
  constructor
  · rintro ⟨other, listed, same⟩
    obtain ⟨otherInside, pinned⟩ := (Shape.mem_plane_iff (tiling.local_lt axis index)).mp listed
    rwa [Shape.offset_injective otherInside inside same] at pinned
  · intro pinned
    exact ⟨cell, (Shape.mem_plane_iff (tiling.local_lt axis index)).mpr ⟨inside, pinned⟩, rfl⟩

/-- A cell that stores a point of the cube is listed if the point is in the plane. -/
theorem Locates.listed_iff {id : FragmentId} {offset n : Nat} {p : CubePoint}
    (located : tiling.Locates id offset n p) (cut : tiling.slice axis index = .ok ids) :
    id ∈ ids ∧ offset ∈ tiling.localPlane axis index ↔ p.get axis = index := by
  obtain ⟨inside, root⟩ := fragmentOf_eq_ok.mp located.fragment
  have grid := rootOf_within inside
  rw [root] at grid
  rw [mem_slice_iff cut, ← located.place, offset_mem_localPlane (tiling.localOf_within p),
    tiling.get_eq_iff p, root]
  simp [grid]

theorem cellNumber_bijOn_plane (cut : tiling.slice axis index = .ok ids) :
    Set.BijOn tiling.cellNumber (tiling.cellsAmong ids (tiling.localPlane axis index))
      (tiling.planeNumbers axis index) := by
  refine ⟨?_, ?_, ?_⟩
  · rintro cell ⟨fragment, offset, member⟩
    obtain ⟨p, located⟩ := locates_of_mem_cells member
    exact ⟨p, located.inside, (located.listed_iff cut).mp ⟨fragment, offset⟩, located.number⟩
  · exact (cellNumber_injOn tiling).mono fun _ member => member.2.2
  · rintro n ⟨p, inside, pinned, rfl⟩
    have located := locates_of_within inside
    obtain ⟨fragment, offset⟩ := (located.listed_iff cut).mpr pinned
    obtain ⟨member, number⟩ := located.mem_cells
    exact ⟨_, ⟨fragment, offset, member⟩, number⟩

theorem exists_past_cube (cut : tiling.slice axis index = .ok ids) {id : FragmentId}
    (fragment : id ∈ ids) {offset : Nat} (listed : offset ∈ tiling.localPlane axis index)
    {fault : Fault} (refused : tiling.globalOffset offset id = .error fault) :
    ∃ p : CubePoint, p = tiling.globalOf id (Shape.pointAt tiling.fragment offset) ∧
      fault = .pointOutsideCube p tiling.cube ∧ p.get axis = index ∧
      ∃ other, other ≠ axis ∧ tiling.cube.get other ≤ p.get other := by
  obtain ⟨cell, planar, rfl⟩ := List.mem_map.mp listed
  obtain ⟨here, place⟩ := (Shape.mem_plane_iff (tiling.local_lt axis index)).mp planar
  have root := ((mem_slice_iff cut).mp fragment).2
  have pinned : (tiling.globalOf id cell).get axis = index :=
    (globalOf_get_iff here).mpr ⟨root, place⟩
  rw [globalOffset_offset here, map_eq_error, inside_eq_error] at refused
  obtain ⟨outside, rfl⟩ := refused
  refine ⟨_, rfl, ?_⟩
  rw [Shape.pointAt_offset here]
  refine ⟨rfl, pinned, ?_⟩
  obtain ⟨other, past⟩ := Triple.not_within_iff.mp outside
  refine ⟨other, ?_, past⟩
  -- Along the axis of the plane the cell is in the cube.
  rintro rfl
  rw [pinned] at past
  exact absurd (slice_eq_ok.mp cut).1 (Nat.not_lt.mpr past)

theorem exists_cell_of_mem_slice (cut : tiling.slice axis index = .ok ids) {id : FragmentId}
    (fragment : id ∈ ids) :
    ∃ offset ∈ tiling.localPlane axis index, (id, offset) ∈ tiling.cells := by
  obtain ⟨grid, root⟩ := (mem_slice_iff cut).mp fragment
  have inside := (slice_eq_ok.mp cut).1
  obtain ⟨offset, listed⟩ := List.exists_mem_of_ne_nil _ (planeCellsOf_ne_nil inside grid root)
  obtain ⟨cell, here, place, within, rfl⟩ := mem_planeCellsOf.mp listed
  have number := (globalOffset_eq_ok here).mpr ⟨within, rfl⟩
  exact ⟨_, (offset_mem_localPlane here).mpr place, _, number⟩

theorem cutsPlane (cut : tiling.slice axis index = .ok ids) :
    tiling.CutsPlane axis index ids (tiling.localPlane axis index) where
  ids_ascending := by
    obtain ⟨_, rfl⟩ := slice_eq_ok.mp cut
    exact Shape.plane_ascending _ _ _
  offsets_ascending := Shape.planeOffsets_ascending (tiling.local_lt axis index)
  numbers := cellNumber_bijOn_plane cut
  padding _ fragment _ listed _ refused := exists_past_cube cut fragment listed refused
  meets _ fragment := exists_cell_of_mem_slice cut fragment

/-! ## Main result -/

/-- A slice is refused exactly for an index past the cube.  Otherwise the
fragments of the slice and the offsets of the local plane cut the plane out of
the cube. -/
theorem slices_cut_planes (tiling : Tiling) (axis : Axis) (index : Nat) :
    ((∃ fault, tiling.slice axis index = .error fault ∧ fault.kind = .outOfRange) ↔
      tiling.cube.get axis ≤ index) ∧
    (index < tiling.cube.get axis → ∃ ids offsets,
      tiling.slice axis index = .ok ids ∧
      Shape.planeOffsets tiling.fragment axis (Shape.planeIndex tiling.fragment axis index) =
        .ok offsets ∧
      tiling.CutsPlane axis index ids offsets) := by
  constructor
  · constructor
    · rintro ⟨fault, refused, _⟩
      exact (slice_eq_error.mp refused).1
    · intro past
      exact ⟨_, slice_eq_error.mpr ⟨past, rfl⟩, rfl⟩
  · intro inside
    have cut : tiling.slice axis index = .ok _ := slice_eq_ok.mpr ⟨inside, rfl⟩
    exact ⟨_, _, cut, if_pos (tiling.local_lt axis index), cutsPlane cut⟩

/-- The last plane in depth lies in fragments that are mostly padding. -/
theorem partialTiling_cuts_last_plane :
    (∃ fault, partialTiling.slice .depth 3 = .error fault ∧ fault.kind = .outOfRange) ∧
    2 < partialTiling.cube.get .depth ∧
    ∃ ids offsets, partialTiling.slice .depth 2 = .ok ids ∧
      Shape.planeOffsets partialTiling.fragment .depth 0 = .ok offsets ∧
      partialTiling.CutsPlane .depth 2 ids offsets := by
  have last : 2 < partialTiling.cube.get .depth := by decide
  refine ⟨(slices_cut_planes partialTiling .depth 3).1.mpr (by decide), last, ?_⟩
  exact (slices_cut_planes partialTiling .depth 2).2 last

end SurveyCube.Tiling
