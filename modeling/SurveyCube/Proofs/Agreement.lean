import SurveyCube.Proofs.Cells
import SurveyCube.Proofs.CurtainCover
import SurveyCube.Proofs.Groups
import SurveyCube.Proofs.Room
import SurveyCube.Proofs.SliceCover

/-!
# Plans and bins agree on fragments

A plan says which fragments of a volume to read, and bins say which fragments
hold the points of a surface.  For the points of a plane, and for the points of
the traces of a polyline, these are the same fragments in the same order.

* The fragments of a slice group the cells of its plane (`Tiling.plane_grouped`).
* The fragments of a curtain group the cells of its traces
  (`CurtainQuery.singles_grouped`).
* Bins group the cells of any points, and entries determine their groups.

A plan may end for want of room, and bins ask for none.
-/

namespace SurveyCube

/-! ## Cells in order -/

namespace Shape

variable {shape : Shape}

/-- The cells of a plane are listed in the order of their numbers. -/
theorem planeOffsets_ascending {axis : Axis} {pin : Nat} (meets : pin < shape.get axis) :
    ((plane shape axis pin).map (offset shape)).Pairwise (· < ·) := by
  rw [List.pairwise_map]
  refine (plane_ascending shape axis pin).imp_of_mem ?_
  intro p q here _ before
  exact offset_lt ((mem_plane_iff meets).mp here).1 before

end Shape

/-! ## Slices -/

namespace Bin

theorem entryOf_globalOf {tiling : Tiling} {id : FragmentId} {cell : LocalPoint}
    (inside : cell.Within tiling.fragment) :
    entryOf tiling (tiling.globalOf id cell) = (id, Shape.offset tiling.fragment cell) := by
  rw [entryOf, Tiling.rootOf_globalOf id inside, Tiling.localOf_globalOf id inside]

end Bin

namespace Tiling

variable {tiling : Tiling} {axis : Axis} {index : Nat}

/-- The cells of a local plane that are no padding of a fragment. -/
def planeCellsOf (tiling : Tiling) (axis : Axis) (index : Nat) (id : FragmentId) : List Nat :=
  ((Shape.plane tiling.fragment axis (index % tiling.fragment.get axis)).map
    (Shape.offset tiling.fragment)).filter fun offset => (tiling.globalOffset offset id).isOk

theorem isOk_globalOffset_iff {id : FragmentId} {cell : LocalPoint}
    (inside : cell.Within tiling.fragment) :
    (tiling.globalOffset (Shape.offset tiling.fragment cell) id).isOk = true ↔
      (tiling.globalOf id cell).Within tiling.cube := by
  cases numbered : tiling.globalOffset (Shape.offset tiling.fragment cell) id with
  | ok n =>
      have within := ((globalOffset_eq_ok inside).mp numbered).1
      simp [Except.isOk, Except.toBool, within]
  | error fault =>
      have outside := (globalOffset_eq_error inside).mp ⟨fault, numbered⟩
      simp [Except.isOk, Except.toBool, outside]

theorem local_lt (tiling : Tiling) (axis : Axis) (index : Nat) :
    index % tiling.fragment.get axis < tiling.fragment.get axis :=
  Nat.mod_lt _ (tiling.fragment_get_pos axis)

theorem mem_planeCellsOf {id : FragmentId} {offset : Nat} :
    offset ∈ tiling.planeCellsOf axis index id ↔
      ∃ cell : LocalPoint, cell.Within tiling.fragment ∧
        cell.get axis = index % tiling.fragment.get axis ∧
        (tiling.globalOf id cell).Within tiling.cube ∧
        Shape.offset tiling.fragment cell = offset := by
  rw [planeCellsOf, List.mem_filter, List.mem_map]
  constructor
  · rintro ⟨⟨cell, listed, rfl⟩, numbered⟩
    obtain ⟨inside, pinned⟩ := (Shape.mem_plane_iff (tiling.local_lt axis index)).mp listed
    exact ⟨cell, inside, pinned, (isOk_globalOffset_iff inside).mp numbered, rfl⟩
  · rintro ⟨cell, inside, pinned, within, rfl⟩
    have listed := (Shape.mem_plane_iff (tiling.local_lt axis index)).mpr ⟨inside, pinned⟩
    exact ⟨⟨cell, listed, rfl⟩, (isOk_globalOffset_iff inside).mpr within⟩

theorem planeCellsOf_ascending (tiling : Tiling) (axis : Axis) (index : Nat) (id : FragmentId) :
    (tiling.planeCellsOf axis index id).Pairwise (· < ·) :=
  (Shape.planeOffsets_ascending (tiling.local_lt axis index)).filter _

/-- A plane of the cube has a cell in every fragment that it meets. -/
theorem planeCellsOf_ne_nil (inside : index < tiling.cube.get axis) {id : FragmentId}
    (grid : id.Within tiling.counts) (pinned : id.get axis = index / tiling.fragment.get axis) :
    tiling.planeCellsOf axis index id ≠ [] := by
  -- The first cell of the fragment, moved to the plane.
  let cell : LocalPoint := Triple.ofFn fun other =>
    if other = axis then index % tiling.fragment.get axis else 0
  have here : cell.Within tiling.fragment := by
    rw [Triple.within_iff]
    intro other
    rw [Triple.get_ofFn]
    split
    · rename_i same
      rw [same]
      exact tiling.local_lt axis index
    · exact tiling.fragment_get_pos other
  have place : cell.get axis = index % tiling.fragment.get axis := by
    rw [Triple.get_ofFn, if_pos rfl]
  have within : (tiling.globalOf id cell).Within tiling.cube := by
    rw [Triple.within_iff] at grid ⊢
    intro other
    by_cases same : other = axis
    · subst same
      rw [(globalOf_get_iff here).mpr ⟨pinned, place⟩]
      exact inside
    · have zero : cell.get other = 0 := by
        rw [Triple.get_ofFn, if_neg same]
      have first := grid other
      rw [get_counts, lt_count_iff] at first
      rw [get_globalOf, zero, Nat.add_zero]
      exact first
  exact List.ne_nil_of_mem (mem_planeCellsOf.mpr ⟨cell, here, place, within, rfl⟩)

/-- The points are those of a plane of the cube, each of them once. -/
structure ListsPlane (tiling : Tiling) (axis : Axis) (index : Nat) (points : List CubePoint) :
    Prop where
  once : points.Nodup
  mem_iff : ∀ p : CubePoint, p ∈ points ↔ p.Within tiling.cube ∧ p.get axis = index

theorem listsPlane_of_perm (inside : index < tiling.cube.get axis) {points : List CubePoint}
    (perm : points.Perm (Shape.plane tiling.cube axis index)) :
    tiling.ListsPlane axis index points where
  once := perm.nodup_iff.mpr (Shape.plane_nodup _ axis index)
  mem_iff _ := perm.mem_iff.trans (Shape.mem_plane_iff inside)

/-- The fragments that a plane meets group the cells of its points. -/
theorem plane_grouped (inside : index < tiling.cube.get axis) {points : List CubePoint}
    (lists : tiling.ListsPlane axis index points) :
    Grouped id (tiling.planeCellsOf axis index)
      (Shape.plane tiling.counts axis (index / tiling.fragment.get axis))
      (points.map (Bin.entryOf tiling)) := by
  have meets : index / tiling.fragment.get axis < tiling.counts.get axis := by
    rw [get_counts]
    exact div_lt_count inside
  have ascending := Shape.plane_ascending tiling.counts axis (index / tiling.fragment.get axis)
  refine ⟨by rwa [List.map_id], ?_, ?_⟩
  · intro id member
    obtain ⟨grid, pinned⟩ := (Shape.mem_plane_iff meets).mp member
    exact planeCellsOf_ne_nil inside grid pinned
  · have distinct : ((Shape.plane tiling.counts axis (index / tiling.fragment.get axis)).flatMap
        (keyed id (tiling.planeCellsOf axis index))).Nodup := by
      rw [List.nodup_flatMap]
      constructor
      · intro id _
        refine List.Nodup.map (fun a b same => (Prod.mk.inj same).2) ?_
        exact (tiling.planeCellsOf_ascending axis index id).imp fun before => Nat.ne_of_lt before
      · refine (Shape.plane_nodup _ _ _).imp ?_
        intro a b differ entry here there
        obtain ⟨_, _, rfl⟩ := List.mem_map.mp here
        obtain ⟨_, _, same⟩ := List.mem_map.mp there
        exact differ (Prod.mk.inj same).1.symm
    rw [List.perm_ext_iff_of_nodup distinct (lists.once.map (Bin.entryOf_injective tiling))]
    rintro ⟨id, offset⟩
    simp only [List.mem_flatMap, List.mem_map, keyed, lists.mem_iff, mem_planeCellsOf,
      Shape.mem_plane_iff meets]
    constructor
    · rintro ⟨fragment, ⟨grid, root⟩, _, ⟨cell, here, place, within, rfl⟩, same⟩
      rw [← same]
      exact ⟨tiling.globalOf fragment cell, ⟨within, (globalOf_get_iff here).mpr ⟨root, place⟩⟩,
        Bin.entryOf_globalOf here⟩
    · rintro ⟨p, ⟨within, rfl⟩, same⟩
      obtain ⟨rfl, rfl⟩ := Prod.mk.inj same
      have root : (tiling.rootOf p).get axis = p.get axis / tiling.fragment.get axis :=
        Triple.get_ofFn _ axis
      have place : (tiling.localOf p).get axis = p.get axis % tiling.fragment.get axis :=
        Triple.get_ofFn _ axis
      refine ⟨tiling.rootOf p, ⟨rootOf_within within, root⟩, _, ⟨tiling.localOf p,
        tiling.localOf_within p, place, ?_, rfl⟩, rfl⟩
      rw [globalOf_rootOf_localOf]
      exact within

end Tiling

/-! ## Curtains -/

namespace Single

/-- The cells that a worker reads for a single, by their numbers in the
fragment. -/
def cells (tiling : Tiling) (single : Single) : List Nat :=
  single.coordinates.flatMap fun (x, y) =>
    ((List.range tiling.fragment.z).filter fun z =>
      single.id.z * tiling.fragment.z + z < tiling.cube.z).map fun z =>
        Shape.offset tiling.fragment ⟨x, y, z⟩

/-- The points of a single are those of its cells. -/
theorem points_entries {tiling : Tiling} {single : Single}
    (places : ∀ place ∈ single.coordinates,
      place.1 < tiling.fragment.x ∧ place.2 < tiling.fragment.y) :
    (single.points tiling.fragment tiling.cube.z).map (Bin.entryOf tiling) =
      keyed Single.id (cells tiling) single := by
  rw [points, keyed, cells, List.map_flatMap, List.map_flatMap]
  apply List.flatMap_congr
  rintro ⟨x, y⟩ member
  obtain ⟨first, second⟩ := places _ member
  rw [List.map_map, List.map_map]
  apply List.map_congr_left
  intro z inside
  have third : z < tiling.fragment.z := List.mem_range.mp (List.mem_of_mem_filter inside)
  have here : Triple.Within ⟨x, y, z⟩ tiling.fragment := ⟨first, second, third⟩
  exact Bin.entryOf_globalOf here

end Single

namespace CurtainQuery

variable {query : CurtainQuery} {tiling : Tiling}

/-- The points of the traces of a polyline. -/
def points (query : CurtainQuery) (depth : Nat) : List CubePoint :=
  (query.dim0s.zip query.dim1s).flatMap (tracePoints depth)

theorem cells_ne_nil {singles : List Single} (planned : query.singles tiling = .ok singles)
    {single : Single} (member : single ∈ singles) : single.cells tiling ≠ [] := by
  obtain ⟨pairs, _, _, rfl⟩ := singles_eq_ok.mp planned
  obtain ⟨column, found, here⟩ := List.mem_flatMap.mp member
  obtain ⟨layer, deep, rfl⟩ := Column.mem_singles.mp here
  obtain ⟨place, covered⟩ := List.exists_mem_of_ne_nil _ (Column.places_ne_nil found)
  -- The top cell of the layer lies in the cube.
  have top : layer * tiling.fragment.z < tiling.cube.z := Tiling.lt_count_iff.mp deep
  have first : 0 < tiling.fragment.z := tiling.fragment_get_pos .depth
  apply List.ne_nil_of_mem
  refine List.mem_flatMap.mpr ⟨place, covered, List.mem_map.mpr ⟨0, ?_, rfl⟩⟩
  exact List.mem_filter.mpr ⟨List.mem_range.mpr first, decide_eq_true top⟩

/-- The singles of a curtain group the cells of its points. -/
theorem singles_grouped {singles : List Single} (planned : query.singles tiling = .ok singles) :
    Grouped Single.id (Single.cells tiling) singles
      ((query.points tiling.cube.z).map (Bin.entryOf tiling)) where
  ascending := singles_ascending planned
  full _ member := cells_ne_nil planned member
  perm := by
    have entries : singles.flatMap (keyed Single.id (Single.cells tiling)) =
        (singles.flatMap fun single => single.points tiling.fragment tiling.cube.z).map
          (Bin.entryOf tiling) := by
      rw [List.map_flatMap]
      apply List.flatMap_congr
      intro single member
      exact (Single.points_entries (of_mem_singles planned member).2.2).symm
    rw [entries]
    exact (singles_points planned).map _

/-- A polyline lies in the cube exactly if all of its points do. -/
theorem forall_points_within_iff :
    (∀ p ∈ query.points tiling.cube.z, p.Within tiling.cube) ↔
      ∀ pair ∈ query.dim0s.zip query.dim1s, (Trace.top pair).Within tiling.cube := by
  simp only [points, List.mem_flatMap, tracePoints, List.mem_map, List.mem_range]
  constructor
  · intro within pair member
    exact within _ ⟨pair, member, 0, tiling.cube_pos.2.2, rfl⟩
  · rintro within _ ⟨pair, member, z, deep, rfl⟩
    obtain ⟨x, y, _⟩ := within pair member
    exact ⟨x, y, deep⟩

end CurtainQuery

/-- A curtain has a plan exactly if its points can be binned. -/
theorem CurtainQuery.exists_singles_iff {query : CurtainQuery} {tiling : Tiling}
    (even : query.dim0s.length = query.dim1s.length) :
    (∃ singles, query.singles tiling = .ok singles) ↔
      ∃ bins, Bin.ofPoints tiling (query.points tiling.cube.z) = .ok bins := by
  have paired : query.pairs = .ok _ := pairs_eq_ok.mpr ⟨even, rfl⟩
  constructor
  · rintro ⟨singles, planned⟩
    obtain ⟨pairs, found, within, _⟩ := singles_eq_ok.mp planned
    rw [paired] at found
    cases found
    exact ⟨_, Bin.ofPoints_eq_ok.mpr ⟨forall_points_within_iff.mpr within, rfl⟩⟩
  · rintro ⟨bins, made⟩
    have within := forall_points_within_iff.mp (Bin.ofPoints_eq_ok.mp made).1
    exact ⟨_, singles_eq_ok.mpr ⟨_, paired, within, rfl⟩⟩

/-! ## Main results -/

/-- Plans and bins agree on the fragments of a volume.  The bins of the points
of a plane are the fragments of the slice, and hold the offsets of the local
plane that are cells of the cube.  Gathering a curtain ends without an outcome
exactly if there is a trace to gather and no room for it.  Otherwise the points
of the polyline can be binned exactly if the curtain has a plan, and then the
bins are the fragments of the plan, and hold the cells that a worker reads
there. -/
theorem plans_agree_with_bins (tiling : Tiling) :
    (∀ (axis : Axis) (index : Nat) (points : List CubePoint),
      index < tiling.cube.get axis → tiling.ListsPlane axis index points →
        ∃ ids offsets bins,
          tiling.slice axis index = .ok ids ∧
          Shape.planeOffsets tiling.fragment axis (Shape.planeIndex tiling.fragment axis index) =
            .ok offsets ∧
          Bin.ofPoints tiling points = .ok bins ∧
          bins.map Bin.key = ids ∧
          ∀ bin ∈ bins, bin.offsets = offsets.filter fun offset =>
            (tiling.globalOffset offset bin.key).isOk) ∧
    (∀ (query : CurtainQuery) (room : Reservation), query.dim0s.length = query.dim1s.length →
      ((∃ stop, query.singlesInRoom tiling room = .error stop) ↔
        Reservation.limit < room.bytes ∧ query.Enters tiling) ∧
      ∀ outcome, query.singlesInRoom tiling room = .ok outcome →
        ((∃ singles, outcome = .ok singles) ↔
          ∃ bins, Bin.ofPoints tiling (query.points tiling.cube.z) = .ok bins) ∧
        ∀ singles bins, outcome = .ok singles →
          Bin.ofPoints tiling (query.points tiling.cube.z) = .ok bins →
            singles.map Single.id = bins.map Bin.key ∧
            ∀ single ∈ singles, ∀ bin ∈ bins, single.id = bin.key →
              (single.cells tiling).Perm bin.offsets) := by
  constructor
  · intro axis index points inside lists
    have within : ∀ p ∈ points, p.Within tiling.cube := by
      intro p listed
      exact ((lists.mem_iff p).mp listed).1
    have made : Bin.ofPoints tiling points = .ok _ := Bin.ofPoints_eq_ok.mpr ⟨within, rfl⟩
    have cut : tiling.slice axis index = .ok _ := Tiling.slice_eq_ok.mpr ⟨inside, rfl⟩
    have planes := Tiling.plane_grouped inside lists
    have keys := (Bin.grouped made).keys_eq planes
    rw [List.map_id] at keys
    refine ⟨_, _, _, cut, if_pos (tiling.local_lt axis index), made, keys, ?_⟩
    intro bin member
    have listed : bin.key ∈ Shape.plane tiling.counts axis (index / tiling.fragment.get axis) := by
      rw [← keys]
      exact List.mem_map_of_mem member
    have same := (Bin.grouped made).same_values planes member listed rfl
    refine same.eq_of_pairwise ?_ (Bin.offsets_ascending made member) ?_
    · intro a b _ _ below above
      exact Nat.le_antisymm below above
    · exact (tiling.planeCellsOf_ascending axis index bin.key).imp Nat.le_of_lt
  · intro query room even
    refine ⟨CurtainQuery.singlesInRoom_stops, ?_⟩
    intro outcome ends
    rw [← CurtainQuery.singlesInRoom_eq_ok ends]
    refine ⟨CurtainQuery.exists_singles_iff even, ?_⟩
    intro singles bins planned made
    have plan := CurtainQuery.singles_grouped planned
    have binned := Bin.grouped made
    refine ⟨plan.keys_eq binned, ?_⟩
    intro single member bin binMember same
    exact plan.same_values binned member binMember same

/-- The points of a plane in some order, and the small curtain. -/
theorem partialTiling_plans_agree_with_bins :
    (∃ ids bins, Tiling.partialTiling.slice .depth 1 = .ok ids ∧
      Bin.ofPoints Tiling.partialTiling
        [⟨2, 1, 1⟩, ⟨0, 0, 1⟩, ⟨0, 1, 1⟩, ⟨1, 0, 1⟩, ⟨1, 1, 1⟩, ⟨2, 0, 1⟩] = .ok bins ∧
      bins.map Bin.key = ids) ∧
    ∃ singles bins,
      smallCurtain.singlesInRoom Tiling.partialTiling (.places Tiling.partialTiling) =
        .ok (.ok singles) ∧
      Bin.ofPoints Tiling.partialTiling (smallCurtain.points 3) = .ok bins ∧
      singles.map Single.id = bins.map Bin.key := by
  have agrees := plans_agree_with_bins Tiling.partialTiling
  constructor
  · have lists : Tiling.partialTiling.ListsPlane .depth 1
        [⟨2, 1, 1⟩, ⟨0, 0, 1⟩, ⟨0, 1, 1⟩, ⟨1, 0, 1⟩, ⟨1, 1, 1⟩, ⟨2, 0, 1⟩] :=
      Tiling.listsPlane_of_perm (by decide) (by decide)
    obtain ⟨ids, _, bins, cut, _, made, keys, _⟩ := agrees.1 .depth 1 _ (by decide) lists
    exact ⟨ids, bins, cut, made, keys⟩
  · have planned : smallCurtain.singlesInRoom Tiling.partialTiling
        (.places Tiling.partialTiling) = .ok (.ok _) := rfl
    obtain ⟨_, comes⟩ := agrees.2 smallCurtain (.places Tiling.partialTiling) rfl
    obtain ⟨succeeds, same⟩ := comes _ planned
    obtain ⟨bins, made⟩ := succeeds.mp ⟨_, rfl⟩
    exact ⟨_, bins, planned, made, (same _ bins rfl made).1⟩

/-- The points under one trace are binned, and yet gathering the trace ends without an
outcome, and so does the plan. -/
theorem longTrace_binned_without_plan :
    ∃ tiling bins, longTrace.base.manifest.tiling = .ok tiling ∧
      Bin.ofPoints tiling (longTrace.points tiling.cube.z) = .ok bins ∧
      longTrace.singlesInRoom tiling (.places tiling) =
        .error ⟨⟨720000000000000000, 16⟩⟩ ∧
      tasksInRoom longTrace = .error ⟨⟨720000000000000000, 16⟩⟩ := by
  have tiled : longTrace.base.manifest.tiling = .ok _ := rfl
  have within : ∀ p ∈ longTrace.points 1, p.Within ⟨1, 1, 1⟩ := by decide
  exact ⟨_, _, tiled, Bin.ofPoints_eq_ok.mpr ⟨within, rfl⟩, rfl, rfl⟩

end SurveyCube
