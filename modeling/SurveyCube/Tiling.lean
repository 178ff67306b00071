import SurveyCube.Shape

/-!
# A cube divided into fragments

Three coordinate spaces meet here:

* a *global* point lies in the whole cube;
* a *root* is the place of a fragment in the grid of fragments;
* a *local* point lies inside one fragment.

Along every axis `global = root * fragment + local`.  The last fragment along
an axis may be partial: its cells past the cube are padding, and no operation
takes them for cells of the cube.
-/

namespace SurveyCube

structure Tiling where
  cube : Shape
  fragment : Shape
  cube_pos : cube.Positive
  fragment_pos : fragment.Positive
  deriving DecidableEq, Repr

namespace Tiling

/-- The tiling of a cube by fragments.  The cube is examined first. -/
def ofShapes (cube fragment : Shape) : Except EmptyShape Tiling :=
  if cube_pos : cube.Positive then
    if fragment_pos : fragment.Positive then
      .ok { cube, fragment, cube_pos, fragment_pos }
    else
      .error ⟨.fragment, fragment⟩
  else
    .error ⟨.cube, cube⟩

/-- The number of fragments along an axis, the last of which may be partial. -/
def count (tiling : Tiling) (axis : Axis) : Nat :=
  (tiling.cube.get axis + (tiling.fragment.get axis - 1)) / tiling.fragment.get axis

def counts (tiling : Tiling) : Shape :=
  Triple.ofFn tiling.count

def total (tiling : Tiling) : Nat :=
  tiling.counts.volume

/-- The fragment of a global point, wherever the point lies. -/
def rootOf (tiling : Tiling) (p : CubePoint) : FragmentId :=
  Triple.ofFn fun axis => p.get axis / tiling.fragment.get axis

/-- The place of a global point inside its fragment. -/
def localOf (tiling : Tiling) (p : CubePoint) : LocalPoint :=
  Triple.ofFn fun axis => p.get axis % tiling.fragment.get axis

/-- The global point at a local point of a fragment. -/
def globalOf (tiling : Tiling) (id : FragmentId) (p : LocalPoint) : CubePoint :=
  Triple.ofFn fun axis => id.get axis * tiling.fragment.get axis + p.get axis

/-- A point of the cube, or the complaint that it lies outside. -/
def inside (tiling : Tiling) (p : CubePoint) : Except Fault CubePoint :=
  if p.Within tiling.cube then .ok p else .error (.pointOutsideCube p tiling.cube)

def fragmentOf (tiling : Tiling) (p : CubePoint) : Except Fault FragmentId :=
  (tiling.inside p).map tiling.rootOf

def placeOf (tiling : Tiling) (p : CubePoint) : Except Fault LocalPoint :=
  (tiling.inside p).map tiling.localOf

/-- The fragments that the plane at `index` along `axis` meets, in
lexicographic order. -/
def slice (tiling : Tiling) (axis : Axis) (index : Nat) : Except Fault (List FragmentId) :=
  if index < tiling.cube.get axis then
    .ok (Shape.plane tiling.counts axis (index / tiling.fragment.get axis))
  else
    .error (.indexOutOfRange index (tiling.cube.get axis) axis)

/-- The global number of the cell at a local offset of a fragment.  It fails
for the padding of a partial fragment. -/
def globalOffset (tiling : Tiling) (offset : Nat) (id : FragmentId) : Except Fault Nat :=
  if offset < tiling.fragment.volume then
    (tiling.inside (tiling.globalOf id (Shape.pointAt tiling.fragment offset))).map
      (Shape.offset tiling.cube)
  else
    .error (.localOffsetOutOfRange offset tiling.fragment.volume)

/-- `globalOf` in machine words. -/
def wordGlobalOf (tiling : Tiling) (id : FragmentId) (p : LocalPoint) : CubePoint :=
  Triple.ofFn fun axis => (id.get axis * tiling.fragment.get axis + p.get axis) % wordLimit

/-- `globalOffset` in machine words. -/
def wordGlobalOffset (tiling : Tiling) (offset : Nat) (id : FragmentId) : Except Fault Nat :=
  if offset < tiling.fragment.wordVolume then
    (tiling.inside (tiling.wordGlobalOf id (Shape.wordPointAt tiling.fragment offset))).map
      (Shape.wordOffset tiling.cube)
  else
    .error (.localOffsetOutOfRange offset tiling.fragment.wordVolume)

theorem ofShapes_ok {cube fragment : Shape} {tiling : Tiling}
    (built : ofShapes cube fragment = .ok tiling) :
    tiling.cube = cube ∧ tiling.fragment = fragment := by
  unfold ofShapes at built
  split at built
  · split at built
    · cases built
      exact ⟨rfl, rfl⟩
    · cases built
  · cases built

theorem fragment_get_pos (tiling : Tiling) (axis : Axis) : 0 < tiling.fragment.get axis :=
  Triple.positive_iff.1 tiling.fragment_pos axis

theorem cube_get_pos (tiling : Tiling) (axis : Axis) : 0 < tiling.cube.get axis :=
  Triple.positive_iff.1 tiling.cube_pos axis

/-- Root and local point together give back the global point. -/
@[simp]
theorem globalOf_rootOf_localOf (tiling : Tiling) (p : CubePoint) :
    tiling.globalOf (tiling.rootOf p) (tiling.localOf p) = p := by
  apply Triple.ext_get
  intro axis
  simp only [globalOf, rootOf, localOf, Triple.get_ofFn]
  rw [Nat.mul_comm]
  exact Nat.div_add_mod _ _

theorem localOf_within (tiling : Tiling) (p : CubePoint) :
    (tiling.localOf p).Within tiling.fragment := by
  rw [Triple.within_iff]
  intro axis
  simp only [localOf, Triple.get_ofFn]
  exact Nat.mod_lt _ (tiling.fragment_get_pos axis)

end Tiling

end SurveyCube
