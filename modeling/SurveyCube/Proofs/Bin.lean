import SurveyCube.Stitch.Bin
import SurveyCube.Proofs.Outcome
import SurveyCube.Proofs.Runs
import SurveyCube.Proofs.Tiling

/-!
# Bins hold every point once

Points in the cube can be binned, and then every point is in the bin of its
fragment with the offset of its cell, as often as it is among the points.
-/

namespace SurveyCube

/-! ## Placed points -/

namespace PlacedPoint

/-- A point in its fragment. -/
def located (tiling : Tiling) (p : CubePoint) (index : Nat) : PlacedPoint where
  root := tiling.rootOf p
  offset := Shape.offset tiling.fragment (tiling.localOf p)
  index

theorem locate_eq_ok {tiling : Tiling} {p : CubePoint} {index : Nat} {placed : PlacedPoint} :
    locate tiling p index = .ok placed ↔
      p.Within tiling.cube ∧ located tiling p index = placed := by
  constructor
  · intro found
    obtain ⟨root, inside, found⟩ := bind_eq_ok.mp found
    obtain ⟨point, inside, same⟩ := map_eq_ok.mp inside
    obtain ⟨within, rfl⟩ := Tiling.inside_eq_ok.mp inside
    subst same
    exact ⟨within, pure_eq_ok.mp found⟩
  · rintro ⟨within, rfl⟩
    have root : tiling.fragmentOf p = .ok (tiling.rootOf p) :=
      map_eq_ok.mpr ⟨p, Tiling.inside_of_within within, rfl⟩
    exact bind_eq_ok.mpr ⟨_, root, rfl⟩

end PlacedPoint

/-! ## Bins -/

namespace Bin

theorem runs_placed (placed : List PlacedPoint) :
    Runs PlacedPoint.root placed
      ((placed.mergeSort PlacedPoint.notAfter).splitBy PlacedPoint.sameRoot) :=
  Runs.ofMergeSort
    (fun a b => a.offset < b.offset ∨ a.offset = b.offset ∧ a.index ≤ b.index)
    (fun _ _ => decide_eq_true_iff) (fun _ _ _ => by omega) (fun _ _ => by omega) placed

theorem ofRun?_eq_some {run : List PlacedPoint} {bin : Bin} (made : ofRun? run = some bin) :
    (∃ point ∈ run, point.root = bin.key) ∧ bin.offsets = run.map PlacedPoint.offset := by
  cases run with
  | nil => cases made
  | cons point rest =>
      cases made
      exact ⟨⟨point, List.mem_cons_self, rfl⟩, rfl⟩

theorem ofPlaced_ascending (placed : List PlacedPoint) :
    ((ofPlaced placed).map key).Pairwise (· < ·) := by
  rw [List.pairwise_map]
  apply (runs_placed placed).groups_ascending
  intro run bin made
  exact (ofRun?_eq_some made).1

/-- A bin consists of a run of placed points. -/
structure ConsistsOf (placed : List PlacedPoint) (bin : Bin) (run : List PlacedPoint) : Prop where
  part : run.Subperm placed
  full : run ≠ []
  same : ∀ point ∈ run, point.root = bin.key
  sorted : run.Pairwise fun a b =>
    a.offset < b.offset ∨ a.offset = b.offset ∧ a.index ≤ b.index
  offsets : bin.offsets = run.map PlacedPoint.offset
  indices : bin.indices = run.map PlacedPoint.index

theorem exists_consistsOf {placed : List PlacedPoint} {bin : Bin}
    (member : bin ∈ ofPlaced placed) : ∃ run, ConsistsOf placed bin run := by
  obtain ⟨run, inside, made⟩ := List.mem_filterMap.mp member
  have part := (runs_placed placed).subperm inside
  have same := (runs_placed placed).same run inside
  have sorted : run.Pairwise fun a b =>
      a.offset < b.offset ∨ a.offset = b.offset ∧ a.index ≤ b.index :=
    Runs.inner_of_mem _ (fun _ _ => decide_eq_true_iff) (fun _ _ _ => by omega)
      (fun _ _ => by omega) inside
  cases run with
  | nil => cases made
  | cons point rest =>
      cases made
      refine ⟨point :: rest, part, List.cons_ne_nil _ _, ?_, sorted, rfl, rfl⟩
      intro other listed
      exact same other listed point List.mem_cons_self

theorem offsets_ascending_of_mem_ofPlaced
    {placed : List PlacedPoint} {bin : Bin} (member : bin ∈ ofPlaced placed) :
    bin.offsets.Pairwise (· ≤ ·) := by
  obtain ⟨run, made⟩ := exists_consistsOf member
  rw [made.offsets, List.pairwise_map]
  refine made.sorted.imp ?_
  intro a b order
  omega

/-- The cells of a bin, each with its fragment. -/
def entries (bin : Bin) : List (FragmentId × Nat) :=
  bin.offsets.map fun offset => (bin.key, offset)

theorem entries_ofPlaced (placed : List PlacedPoint) :
    ((ofPlaced placed).flatMap entries).Perm
      (placed.map fun point => (point.root, point.offset)) := by
  apply (runs_placed placed).entries_perm
  intro run member
  cases run with
  | nil => rfl
  | cons point rest =>
      have same := (runs_placed placed).same _ member point List.mem_cons_self
      simp only [ofRun?, Option.elim_some, entries, List.map_map]
      apply List.map_congr_left
      intro other inside
      rw [Function.comp_apply, same other inside]

theorem offsets_ne_nil_of_mem_ofPlaced
    {placed : List PlacedPoint} {bin : Bin} (member : bin ∈ ofPlaced placed) :
    bin.offsets ≠ [] := by
  obtain ⟨run, made⟩ := exists_consistsOf member
  rw [made.offsets]
  exact fun empty => made.full (List.map_eq_nil_iff.mp empty)

/-- The points of a list in their fragments. -/
def placed (tiling : Tiling) (points : List CubePoint) : List PlacedPoint :=
  points.zipIdx.map fun (p, index) => PlacedPoint.located tiling p index

/-- The cell of a point in its fragment. -/
def entryOf (tiling : Tiling) (p : CubePoint) : FragmentId × Nat :=
  (tiling.rootOf p, Shape.offset tiling.fragment (tiling.localOf p))

/-- A point is determined by its fragment and its cell there. -/
theorem entryOf_injective (tiling : Tiling) : Function.Injective (entryOf tiling) := by
  intro p q same
  obtain ⟨root, cell⟩ := Prod.mk.inj same
  rw [← tiling.globalOf_rootOf_pointAt p, ← tiling.globalOf_rootOf_pointAt q, root, cell]

section Points

variable {tiling : Tiling} {points : List CubePoint} {bins : List Bin}

/-- Points can be binned exactly when all of them are in the cube. -/
theorem ofPoints_eq_ok :
    ofPoints tiling points = .ok bins ↔
      (∀ p ∈ points, p.Within tiling.cube) ∧ ofPlaced (placed tiling points) = bins := by
  have located (results : List PlacedPoint) :
      (points.zipIdx.mapM fun (p, index) => PlacedPoint.locate tiling p index) = .ok results ↔
        (∀ p ∈ points, p.Within tiling.cube) ∧ placed tiling points = results :=
    mapM_zipIdx_eq_ok fun _ _ => PlacedPoint.locate_eq_ok
  constructor
  · intro made
    obtain ⟨results, each, made⟩ := bind_eq_ok.mp made
    obtain ⟨inside, rfl⟩ := (located results).mp each
    exact ⟨inside, pure_eq_ok.mp made⟩
  · rintro ⟨inside, rfl⟩
    exact bind_eq_ok.mpr ⟨_, (located _).mpr ⟨inside, rfl⟩, rfl⟩

/-- Only a point outside the cube cannot be binned. -/
theorem exists_of_ofPoints_eq_error {fault : Fault}
    (failed : ofPoints tiling points = .error fault) :
    ∃ p ∈ points, ¬ p.Within tiling.cube ∧ fault = .pointOutsideCube p tiling.cube := by
  rcases bind_eq_error.mp failed with stopped | ⟨_, _, impossible⟩
  · obtain ⟨⟨p, index⟩, member, stopped⟩ := exists_of_mapM_eq_error stopped
    have listed : p ∈ points := List.fst_mem_of_mem_zipIdx member
    replace stopped : PlacedPoint.locate tiling p index = .error fault := stopped
    rcases bind_eq_error.mp stopped with outside | ⟨_, _, impossible⟩
    · rw [Tiling.fragmentOf, map_eq_error, Tiling.inside_eq_error] at outside
      exact ⟨p, listed, outside.1, outside.2.symm⟩
    · cases impossible
  · cases impossible

theorem offsets_ne_nil (made : ofPoints tiling points = .ok bins) {bin : Bin}
    (member : bin ∈ bins) : bin.offsets ≠ [] := by
  obtain ⟨_, rfl⟩ := ofPoints_eq_ok.mp made
  exact offsets_ne_nil_of_mem_ofPlaced member

theorem keys_ascending (made : ofPoints tiling points = .ok bins) :
    (bins.map key).Pairwise (· < ·) := by
  obtain ⟨_, rfl⟩ := ofPoints_eq_ok.mp made
  exact ofPlaced_ascending _

theorem offsets_ascending (made : ofPoints tiling points = .ok bins) {bin : Bin}
    (member : bin ∈ bins) : bin.offsets.Pairwise (· ≤ ·) := by
  obtain ⟨_, rfl⟩ := ofPoints_eq_ok.mp made
  exact offsets_ascending_of_mem_ofPlaced member

/-- The bins hold the cells of the points, every cell as often as its points. -/
theorem entries_perm (made : ofPoints tiling points = .ok bins) :
    (bins.flatMap entries).Perm (points.map (entryOf tiling)) := by
  obtain ⟨_, rfl⟩ := ofPoints_eq_ok.mp made
  refine (entries_ofPlaced _).trans (List.Perm.of_eq ?_)
  rw [placed, List.map_map, ← List.zipIdx_map_fst 0 points, List.map_map, List.zipIdx_map_fst]
  rfl

/-- A cell of a bin is the cell of a point. -/
theorem exists_point (made : ofPoints tiling points = .ok bins) {bin : Bin}
    (member : bin ∈ bins) {offset : Nat} (inside : offset ∈ bin.offsets) :
    ∃ p ∈ points, entryOf tiling p = (bin.key, offset) := by
  have entry : (bin.key, offset) ∈ bins.flatMap entries :=
    List.mem_flatMap.mpr ⟨bin, member, List.mem_map_of_mem inside⟩
  rwa [(entries_perm made).mem_iff, List.mem_map] at entry

/-- A point is in one of the bins. -/
theorem exists_bin (made : ofPoints tiling points = .ok bins) {p : CubePoint}
    (listed : p ∈ points) : ∃ bin ∈ bins, (entryOf tiling p).1 = bin.key := by
  have entry : entryOf tiling p ∈ points.map (entryOf tiling) := List.mem_map_of_mem listed
  rw [← (entries_perm made).mem_iff, List.mem_flatMap] at entry
  obtain ⟨bin, member, held⟩ := entry
  obtain ⟨offset, _, same⟩ := List.mem_map.mp held
  exact ⟨bin, member, (Prod.mk.inj same).1.symm⟩

/-- A cell of a bin is a cell of the cube. -/
theorem exists_globalOffset (made : ofPoints tiling points = .ok bins) {bin : Bin}
    (member : bin ∈ bins) {offset : Nat} (inside : offset ∈ bin.offsets) :
    ∃ n, tiling.globalOffset offset bin.key = .ok n := by
  have within := (ofPoints_eq_ok.mp made).1
  obtain ⟨p, listed, same⟩ := exists_point made member inside
  obtain ⟨root, place⟩ := Prod.mk.inj same
  rw [← root, ← place]
  exact ⟨_, Tiling.globalOffset_rootOf (within p listed)⟩

end Points

end Bin

end SurveyCube
