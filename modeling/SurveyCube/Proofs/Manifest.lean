import SurveyCube.Plan.Slice
import SurveyCube.Proofs.Outcome
import SurveyCube.Proofs.Words

/-!
# What manifests give to planning

* A tiling keeps the shapes that it was made of.
* The shapes that a manifest gives are its own, so their extents are words.
* The line numbers along an axis are its own as well.
-/

namespace SurveyCube

theorem Axis.ofIndex_eq_ok {index : Nat} {axis : Axis} :
    Axis.ofIndex index = .ok axis ↔ index = axis.index := by
  rw [← Axis.ofIndex?_eq_some_iff]
  unfold Axis.ofIndex
  cases Axis.ofIndex? index <;> simp

namespace Manifest

variable {manifest : Manifest}

/-! ## Shapes and tilings -/

theorem tile_eq_ok {cube fragment : Shape} {tiling : Tiling} :
    tile cube fragment = .ok tiling ↔ tiling.cube = cube ∧ tiling.fragment = fragment := by
  rw [tile, mapError_eq_ok]
  constructor
  · exact Tiling.ofShapes_ok
  · rintro ⟨rfl, rfl⟩
    rw [Tiling.ofShapes, dif_pos tiling.cube_pos, dif_pos tiling.fragment_pos]

theorem tiling_eq_ok {tiling : Tiling} :
    manifest.tiling = .ok tiling ↔
      manifest.cubeShape = .ok tiling.cube ∧ manifest.fragmentShape = .ok tiling.fragment := by
  constructor
  · intro tiled
    obtain ⟨cube, measured, tiled⟩ := bind_eq_ok.mp tiled
    obtain ⟨fragment, stored, tiled⟩ := bind_eq_ok.mp tiled
    obtain ⟨rfl, rfl⟩ := tile_eq_ok.mp tiled
    exact ⟨measured, stored⟩
  · rintro ⟨measured, stored⟩
    exact bind_eq_ok.mpr ⟨_, measured, bind_eq_ok.mpr ⟨_, stored, tile_eq_ok.mpr ⟨rfl, rfl⟩⟩⟩

theorem attributeCubeShape_eq_ok {shape : Shape} :
    manifest.attributeCubeShape = .ok shape ↔
      ∃ cube, manifest.cubeShape = .ok cube ∧ cube.withZ 1 = shape := by
  simp only [attributeCubeShape, bind_eq_ok, pure_eq_ok]

theorem attributeTiling_eq_ok {desc : AttributeDesc} {tiling : Tiling} :
    manifest.attributeTiling desc = .ok tiling ↔
      manifest.attributeCubeShape = .ok tiling.cube ∧ desc.shape = .ok tiling.fragment := by
  constructor
  · intro tiled
    obtain ⟨cube, measured, tiled⟩ := bind_eq_ok.mp tiled
    obtain ⟨fragment, stored, tiled⟩ := bind_eq_ok.mp tiled
    obtain ⟨rfl, rfl⟩ := tile_eq_ok.mp tiled
    exact ⟨measured, stored⟩
  · rintro ⟨measured, stored⟩
    exact bind_eq_ok.mpr ⟨_, measured, bind_eq_ok.mpr ⟨_, stored, tile_eq_ok.mpr ⟨rfl, rfl⟩⟩⟩

/-- Attribute volumes have the extents of the cube and a single layer in depth. -/
theorem cube_of_attributeTiling {desc : AttributeDesc} {tiling layer : Tiling}
    (tiled : manifest.tiling = .ok tiling) (layered : manifest.attributeTiling desc = .ok layer) :
    layer.cube = tiling.cube.withZ 1 := by
  have measured := (tiling_eq_ok.mp tiled).1
  have shape := (attributeTiling_eq_ok.mp layered).1
  obtain ⟨cube, found, same⟩ := attributeCubeShape_eq_ok.mp shape
  rw [measured] at found
  cases found
  exact same.symm

theorem cubeShape_eq_ok {cube : Shape} :
    manifest.cubeShape = .ok cube ↔
      ∃ inlines crosslines depths, manifest.lineNumbers = [inlines, crosslines, depths] ∧
        cube = ⟨inlines.length, crosslines.length, depths.length⟩ := by
  unfold cubeShape
  split
  · rename_i inlines crosslines depths lines
    rw [lines]
    simp [eq_comm]
  · rename_i other
    constructor
    · intro impossible
      cases impossible
    · rintro ⟨inlines, crosslines, depths, lines, _⟩
      exact absurd lines (other inlines crosslines depths)

theorem dimension_eq_ok {axis : Axis} {lines : List Int} :
    manifest.dimension axis = .ok lines ↔ manifest.lineNumbers[axis.index]? = some lines := by
  unfold dimension
  split <;> simp_all

theorem lineNumber_eq_ok {axis : Axis} {index : Nat} {line : Int} :
    manifest.lineNumber axis index = .ok line ↔
      ∃ lines, manifest.lineNumbers[axis.index]? = some lines ∧ lines[index]? = some line := by
  rw [lineNumber, bind_eq_ok]
  simp only [dimension_eq_ok]
  apply exists_congr
  intro lines
  cases lines[index]? <;> simp

/-- The cube has as many cells along an axis as the axis has lines. -/
theorem length_of_dimension
    {cube : Shape} {axis : Axis} {lines : List Int} (measured : manifest.cubeShape = .ok cube)
    (found : manifest.dimension axis = .ok lines) : lines.length = cube.get axis := by
  obtain ⟨inlines, crosslines, depths, all, rfl⟩ := cubeShape_eq_ok.mp measured
  unfold dimension at found
  rw [all] at found
  cases axis with
  | inline | crossline | depth =>
      cases found
      rfl

theorem dataVolume_mem {volume : VolumeDesc} (found : manifest.dataVolume = .ok volume) :
    volume ∈ manifest.data := by
  unfold dataVolume at found
  split at found
  · rename_i first rest volumes
    cases found
    rw [volumes]
    exact List.mem_cons_self
  · cases found

theorem fragmentShape_mem {shape : Shape} (found : manifest.fragmentShape = .ok shape) :
    ∃ volume ∈ manifest.data, shape ∈ volume.shapes := by
  obtain ⟨volume, stored, found⟩ := bind_eq_ok.mp found
  refine ⟨volume, dataVolume_mem stored, ?_⟩
  split at found
  · rename_i first rest shapes
    cases found
    rw [shapes]
    exact List.mem_cons_self
  · cases found

/-! ## Attributes -/

theorem shape_mem {desc : AttributeDesc} {shape : Shape} (found : desc.shape = .ok shape) :
    shape ∈ desc.shapes := by
  unfold AttributeDesc.shape at found
  split at found
  · rename_i first rest shapes
    cases found
    rw [shapes]
    exact List.mem_cons_self
  · cases found

theorem attribute?_eq_some {name : String} {desc : AttributeDesc}
    (found : manifest.attribute? name = some desc) :
    desc ∈ manifest.attributes ∧ desc.name = name :=
  ⟨List.mem_of_find?_eq_some found, by simpa using List.find?_some found⟩

/-! ## Words -/

theorem fitWords_cubeShape
    {cube : Shape} (words : fitWords manifest = true)
    (measured : manifest.cubeShape = .ok cube) :
    cube.x < 2 ^ 63 ∧ cube.y < 2 ^ 63 ∧ cube.z < 2 ^ 63 := by
  obtain ⟨inlines, crosslines, depths, all, rfl⟩ := cubeShape_eq_ok.mp measured
  obtain ⟨_, _, _, lines⟩ := fitWords_iff.mp words
  have short (axis : List Int) (member : axis ∈ [inlines, crosslines, depths]) :
      axis.length < 2 ^ 63 := by
    rw [← all] at member
    exact fitsLength_iff.mp (lines axis member).1
  exact ⟨short inlines (by simp), short crosslines (by simp), short depths (by simp)⟩

theorem fitWords_fragmentShape
    {shape : Shape} (words : fitWords manifest = true)
    (stored : manifest.fragmentShape = .ok shape) : fitWords shape = true := by
  obtain ⟨volume, member, found⟩ := fragmentShape_mem stored
  obtain ⟨_, data, _, _⟩ := fitWords_iff.mp words
  have shapes : fitWords volume.shapes = true := fitWords_list_iff.mp data volume member
  exact fitWords_list_iff.mp shapes shape found

theorem fitWords_attributeShape
    {desc : AttributeDesc} {shape : Shape} (words : fitWords manifest = true)
    (member : desc ∈ manifest.attributes) (stored : desc.shape = .ok shape) :
    fitWords shape = true := by
  obtain ⟨_, _, attributes, _⟩ := fitWords_iff.mp words
  have shapes : fitWords desc.shapes = true := fitWords_list_iff.mp attributes desc member
  exact fitWords_list_iff.mp shapes shape (shape_mem stored)

theorem fitWords_dimension
    {axis : Axis} {lines : List Int} (words : fitWords manifest = true)
    (found : manifest.dimension axis = .ok lines) :
    lines.length < 2 ^ 63 ∧ fitWords lines = true := by
  obtain ⟨_, _, _, all⟩ := fitWords_iff.mp words
  have member : lines ∈ manifest.lineNumbers := List.mem_of_getElem? (dimension_eq_ok.mp found)
  exact ⟨fitsLength_iff.mp (all lines member).1, (all lines member).2⟩

theorem fitWords_lineNumber
    {axis : Axis} {index : Nat} {line : Int} (words : fitWords manifest = true)
    (found : manifest.lineNumber axis index = .ok line) : fitWords line = true := by
  obtain ⟨lines, stored, inside⟩ := lineNumber_eq_ok.mp found
  obtain ⟨_, fits⟩ := fitWords_dimension words (dimension_eq_ok.mpr stored)
  exact fitWords_list_iff.mp fits line (List.mem_of_getElem? inside)

end Manifest

end SurveyCube
