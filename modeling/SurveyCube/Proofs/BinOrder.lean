import Mathlib.Data.List.Nodup
import SurveyCube.Proofs.Cells
import SurveyCube.Proofs.Groups

/-!
# Bins sort their points

Points are sorted by fragment, cell and position, and the sorted list is cut where
the fragment changes.  `Bin.SortsPoints` says what the bins are then: they hold
every position of the list once, each with the fragment and the cell of its point,
and everything in them ascends.

So points that are given in another order fill the same bins.  Only the positions
beside the cells change.
-/

namespace SurveyCube.Bin

variable {tiling : Tiling} {points : List CubePoint} {bins : List Bin}

/-- The cells of a bin, each with the position of its point. -/
def positioned (bin : Bin) : List (Nat × Nat) :=
  bin.offsets.zip bin.indices

/-- The fragment of a bin with its cells. -/
def layout (bin : Bin) : FragmentId × List Nat :=
  (bin.key, bin.offsets)

/-- Bins hold the points of a list, sorted. -/
structure SortsPoints (tiling : Tiling) (points : List CubePoint) (bins : List Bin) : Prop where
  keys_ascending : (bins.map key).Pairwise (· < ·)
  full : ∀ bin ∈ bins, bin.isEmpty = false
  even : ∀ bin ∈ bins, bin.offsets.length = bin.indices.length
  ascending : ∀ bin ∈ bins, bin.positioned.Pairwise fun a b => a.1 < b.1 ∨ a.1 = b.1 ∧ a.2 < b.2
  offsets_ascending : ∀ bin ∈ bins, bin.offsets.Pairwise (· ≤ ·)
  /-- Equal points keep their order. -/
  stable : ∀ bin ∈ bins, bin.positioned.Pairwise fun a b => points[a.2]? = points[b.2]? → a.2 < b.2
  positions : (bins.flatMap indices).Perm (List.range points.length)
  placed : ∀ bin ∈ bins, ∀ cell ∈ bin.positioned, ∃ p, points[cell.2]? = some p ∧
    tiling.fragmentOf p = .ok bin.key ∧
    cell.1 = Shape.offset tiling.fragment (tiling.localOf p)

/-! ## Positions -/

theorem mem_placed {point : PlacedPoint} :
    point ∈ placed tiling points ↔
      ∃ p, points[point.index]? = some p ∧ PlacedPoint.located tiling p point.index = point := by
  simp only [placed, List.mem_map, Prod.exists, List.mem_zipIdx_iff_getElem?]
  constructor
  · rintro ⟨p, index, listed, rfl⟩
    exact ⟨p, listed, rfl⟩
  · rintro ⟨p, listed, same⟩
    exact ⟨p, point.index, listed, same⟩

theorem index_placed (tiling : Tiling) (points : List CubePoint) :
    (placed tiling points).map PlacedPoint.index = List.range points.length := by
  rw [placed, List.map_map, List.range_eq_range', ← List.zipIdx_map_snd]
  rfl

theorem indices_ofPlaced (items : List PlacedPoint) :
    ((ofPlaced items).flatMap indices).Perm (items.map PlacedPoint.index) := by
  apply (runs_placed items).entries_perm
  intro run _
  cases run <;> rfl

theorem positions_perm (made : ofPoints tiling points = .ok bins) :
    (bins.flatMap indices).Perm (List.range points.length) := by
  obtain ⟨_, rfl⟩ := ofPoints_eq_ok.mp made
  have held := indices_ofPlaced (placed tiling points)
  rwa [index_placed] at held

theorem indices_nodup (made : ofPoints tiling points = .ok bins) {bin : Bin}
    (member : bin ∈ bins) : bin.indices.Nodup := by
  have once : (bins.flatMap indices).Nodup :=
    (positions_perm made).nodup_iff.mpr List.nodup_range
  exact (List.nodup_flatMap.mp once).1 bin member

/-! ## Cells with positions -/

theorem exists_run (made : ofPoints tiling points = .ok bins) {bin : Bin} (member : bin ∈ bins) :
    ∃ run, ConsistsOf (placed tiling points) bin run := by
  obtain ⟨_, rfl⟩ := ofPoints_eq_ok.mp made
  exact exists_consistsOf member

theorem ConsistsOf.positioned_eq {items run : List PlacedPoint} {bin : Bin}
    (made : ConsistsOf items bin run) :
    bin.positioned = run.map fun point => (point.offset, point.index) := by
  rw [positioned, made.offsets, made.indices, List.zip_map']

theorem length_offsets (made : ofPoints tiling points = .ok bins) {bin : Bin}
    (member : bin ∈ bins) : bin.offsets.length = bin.indices.length := by
  obtain ⟨run, consists⟩ := exists_run made member
  rw [consists.offsets, consists.indices, List.length_map, List.length_map]

theorem positioned_ascending (made : ofPoints tiling points = .ok bins) {bin : Bin}
    (member : bin ∈ bins) :
    bin.positioned.Pairwise fun a b => a.1 < b.1 ∨ a.1 = b.1 ∧ a.2 < b.2 := by
  obtain ⟨run, consists⟩ := exists_run made member
  -- No position occurs twice, so cells that agree differ in their positions.
  have distinct := indices_nodup made member
  rw [consists.indices, List.Nodup, List.pairwise_map] at distinct
  rw [consists.positioned_eq, List.pairwise_map]
  refine (consists.sorted.and distinct).imp ?_
  rintro a b ⟨order, differ⟩
  omega

theorem exists_of_mem_positioned (made : ofPoints tiling points = .ok bins) {bin : Bin}
    (member : bin ∈ bins) {cell : Nat × Nat} (held : cell ∈ bin.positioned) :
    ∃ p, points[cell.2]? = some p ∧ tiling.fragmentOf p = .ok bin.key ∧
      cell.1 = Shape.offset tiling.fragment (tiling.localOf p) := by
  obtain ⟨run, consists⟩ := exists_run made member
  rw [consists.positioned_eq] at held
  obtain ⟨point, inside, rfl⟩ := List.mem_map.mp held
  obtain ⟨p, listed, same⟩ := mem_placed.mp (consists.part.subset inside)
  have within := (ofPoints_eq_ok.mp made).1 p (List.mem_of_getElem? listed)
  have root : tiling.rootOf p = bin.key := by
    rw [← consists.same point inside, ← same]
    rfl
  refine ⟨p, listed, Tiling.fragmentOf_eq_ok.mpr ⟨within, root⟩, ?_⟩
  rw [← same]
  rfl

theorem positioned_stable (made : ofPoints tiling points = .ok bins) {bin : Bin}
    (member : bin ∈ bins) :
    bin.positioned.Pairwise fun a b => points[a.2]? = points[b.2]? → a.2 < b.2 := by
  refine (positioned_ascending made member).imp_of_mem ?_
  intro a b here there order equal
  obtain ⟨p, listed, _, cell⟩ := exists_of_mem_positioned made member here
  obtain ⟨q, further, _, other⟩ := exists_of_mem_positioned made member there
  rw [listed, further] at equal
  cases equal
  omega

theorem sortsPoints (made : ofPoints tiling points = .ok bins) :
    SortsPoints tiling points bins where
  keys_ascending := keys_ascending made
  full _ member := List.isEmpty_eq_false_iff.mpr (offsets_ne_nil made member)
  even _ member := length_offsets made member
  ascending _ member := positioned_ascending made member
  offsets_ascending _ member := offsets_ascending made member
  stable _ member := positioned_stable made member
  positions := positions_perm made
  placed _ member _ held := exists_of_mem_positioned made member held

/-! ## Other orders of the points -/

theorem layout_eq_of_perm {others : List CubePoint} {rebinned : List Bin}
    (made : ofPoints tiling points = .ok bins) (remade : ofPoints tiling others = .ok rebinned)
    (same : others.Perm points) : rebinned.map layout = bins.map layout := by
  have regrouped : Grouped key offsets rebinned (points.map (entryOf tiling)) :=
    { grouped remade with perm := (grouped remade).perm.trans (same.map _) }
  exact regrouped.eq_of_ascending (grouped made)
    (fun _ member => offsets_ascending remade member)
    (fun _ member => offsets_ascending made member)

/-! ## Main result -/

/-- Points are refused exactly if one of them is outside the cube.  Otherwise the
bins sort them, and points in another order give the same fragments and cells. -/
theorem bins_sort_points (tiling : Tiling) (points : List CubePoint) :
    ((∃ fault, ofPoints tiling points = .error fault ∧ fault.kind = .outOfRange) ↔
      ∃ p ∈ points, ¬ p.Within tiling.cube) ∧
    ((∀ p ∈ points, p.Within tiling.cube) → ∃ bins, ofPoints tiling points = .ok bins ∧
      SortsPoints tiling points bins ∧
      ∀ others : List CubePoint, others.Perm points → ∃ rebinned,
        ofPoints tiling others = .ok rebinned ∧ rebinned.map layout = bins.map layout) := by
  constructor
  · constructor
    · rintro ⟨fault, failed, _⟩
      obtain ⟨p, listed, outside, _⟩ := exists_of_ofPoints_eq_error failed
      exact ⟨p, listed, outside⟩
    · rintro ⟨p, listed, outside⟩
      cases outcome : ofPoints tiling points with
      | ok bins => exact absurd ((ofPoints_eq_ok.mp outcome).1 p listed) outside
      | error fault =>
          obtain ⟨_, _, _, rfl⟩ := exists_of_ofPoints_eq_error outcome
          exact ⟨_, rfl, rfl⟩
  · intro inside
    have made : ofPoints tiling points = .ok _ := ofPoints_eq_ok.mpr ⟨inside, rfl⟩
    refine ⟨_, made, sortsPoints made, ?_⟩
    intro others same
    have remade : ofPoints tiling others = .ok _ :=
      ofPoints_eq_ok.mpr ⟨fun p listed => inside p (same.mem_iff.mp listed), rfl⟩
    exact ⟨_, remade, layout_eq_of_perm made remade same⟩

/-- One point is given twice, with a point of another fragment in between. -/
theorem partialTiling_sorts_repeated_point :
    (∀ p ∈ [(⟨2, 1, 2⟩ : CubePoint), ⟨0, 1, 0⟩, ⟨2, 1, 2⟩],
      p.Within Tiling.partialTiling.cube) ∧
    ∃ bins, ofPoints Tiling.partialTiling [⟨2, 1, 2⟩, ⟨0, 1, 0⟩, ⟨2, 1, 2⟩] = .ok bins ∧
      SortsPoints Tiling.partialTiling [⟨2, 1, 2⟩, ⟨0, 1, 0⟩, ⟨2, 1, 2⟩] bins ∧
      ∃ rebinned, ofPoints Tiling.partialTiling [⟨0, 1, 0⟩, ⟨2, 1, 2⟩, ⟨2, 1, 2⟩] = .ok rebinned ∧
        rebinned.map layout = bins.map layout := by
  have inside : ∀ p ∈ [(⟨2, 1, 2⟩ : CubePoint), ⟨0, 1, 0⟩, ⟨2, 1, 2⟩],
      p.Within Tiling.partialTiling.cube := by
    decide
  obtain ⟨bins, made, sorted, reordered⟩ := (bins_sort_points _ _).2 inside
  exact ⟨inside, bins, made, sorted, reordered _ (List.Perm.swap _ _ _)⟩

end SurveyCube.Bin
