import SurveyCube.Proofs.Manifest
import SurveyCube.Proofs.Partition
import SurveyCube.Proofs.Query
import SurveyCube.Proofs.Tiling

/-!
# Plans

A plan has a task for the data volume and one for every recorded attribute.

* `TaskBase.Reads` ties the shared part of a task to the name and the tiling of
  the volume that it reads.
* The recorded attributes of a query have distinct names, and none of them has
  the name of the data volume unless the manifest records such an attribute.
* `Planned` describes the tasks of a plan, whatever they extract.  Among the
  units of work of a plan, those of one volume are the units of one task.
-/

namespace SurveyCube

/-! ## Shared parts -/

namespace TaskBase

/-- The shared part of a task reads the volume of this name and tiling. -/
structure Reads (base : TaskBase) (name : String) (tiling : Tiling) : Prop where
  named : base.attributeName = name
  shape : base.shape = tiling.fragment
  cubeShape : base.cubeShape = tiling.cube

theorem Reads.tiling_eq {base : TaskBase} {name : String} {tiling : Tiling}
    (reads : base.Reads name tiling) : base.tiling = .ok tiling :=
  Manifest.tile_eq_ok.mpr ⟨reads.cubeShape.symm, reads.shape.symm⟩

theorem ofData_reads
    {query : QueryBase} {function : Function} {base : TaskBase} {tiling : Tiling}
    (built : ofData query function = .ok base) (tiled : query.manifest.tiling = .ok tiling) :
    base.Reads dataAttribute tiling := by
  obtain ⟨measured, stored⟩ := Manifest.tiling_eq_ok.mp tiled
  obtain ⟨volume, _, built⟩ := bind_eq_ok.mp built
  rw [measured, stored] at built
  cases built
  exact ⟨rfl, rfl, rfl⟩

theorem ofAttribute_reads
    {query : QueryBase} {function : Function} {desc : AttributeDesc} {base : TaskBase}
    {tiling : Tiling} (built : ofAttribute query function desc = .ok base)
    (tiled : base.tiling = .ok tiling) :
    base.Reads desc.name tiling ∧ query.manifest.attributeTiling desc = .ok tiling := by
  obtain ⟨fragment, stored, built⟩ := bind_eq_ok.mp built
  obtain ⟨cube, measured, built⟩ := bind_eq_ok.mp built
  have same := pure_eq_ok.mp built
  obtain ⟨cubes, fragments⟩ := Manifest.tile_eq_ok.mp tiled
  subst same
  refine ⟨⟨rfl, fragments.symm, cubes.symm⟩, ?_⟩
  exact Manifest.attributeTiling_eq_ok.mpr ⟨by rw [measured, cubes], by rw [stored, fragments]⟩

theorem Reads.fitWords {base : TaskBase} {name : String} {tiling : Tiling}
    (reads : base.Reads name tiling) (cube : SurveyCube.fitWords tiling.cube = true)
    (fragment : SurveyCube.fitWords tiling.fragment = true) :
    SurveyCube.fitWords base = true := by
  rw [fitWords_iff, reads.shape, reads.cubeShape]
  exact ⟨fragment, cube⟩

end TaskBase

/-! ## Recorded attributes -/

namespace Manifest

variable {manifest : Manifest}

theorem mem_recorded {names : List String} {desc : AttributeDesc} :
    desc ∈ manifest.recorded names ↔ ∃ name ∈ names, manifest.attribute? name = some desc :=
  List.mem_filterMap

theorem names_recorded_sublist (manifest : Manifest) (names : List String) :
    ((manifest.recorded names).map AttributeDesc.name).Sublist names := by
  unfold recorded
  induction names with
  | nil => exact List.Sublist.refl []
  | cons name rest ih =>
      cases found : manifest.attribute? name with
      | none =>
          rw [List.filterMap_cons_none found]
          exact ih.cons name
      | some desc =>
          rw [List.filterMap_cons_some found, List.map_cons, (attribute?_eq_some found).2]
          exact ih.cons_cons name

theorem volumeNames_nodup
    (noData : manifest.attribute? TaskBase.dataAttribute = none) (names : List String) :
    (TaskBase.dataAttribute ::
      (manifest.recorded (normalizedAttributes names)).map AttributeDesc.name).Nodup := by
  rw [List.nodup_cons]
  constructor
  · intro member
    obtain ⟨desc, recorded, named⟩ := List.mem_map.mp member
    obtain ⟨name, _, found⟩ := mem_recorded.mp recorded
    rw [← (attribute?_eq_some found).2, named, noData] at found
    cases found
  · exact (names_recorded_sublist manifest _).nodup (normalizedAttributes_nodup names)

theorem fitWords_tiling {tiling : Tiling} (words : fitWords manifest = true)
    (tiled : manifest.tiling = .ok tiling) :
    fitWords tiling.cube = true ∧ fitWords tiling.fragment = true := by
  obtain ⟨measured, stored⟩ := tiling_eq_ok.mp tiled
  have small := fitWords_cubeShape words measured
  refine ⟨?_, fitWords_fragmentShape words stored⟩
  rw [fitWords_triple_iff, wordLimit]
  omega

theorem fitWords_attributeTiling {desc : AttributeDesc} {tiling : Tiling}
    (words : fitWords manifest = true) (member : desc ∈ manifest.attributes)
    (tiled : manifest.attributeTiling desc = .ok tiling) :
    fitWords tiling.cube = true ∧ fitWords tiling.fragment = true := by
  obtain ⟨measured, stored⟩ := attributeTiling_eq_ok.mp tiled
  obtain ⟨cube, measured, layer⟩ := attributeCubeShape_eq_ok.mp measured
  have small := fitWords_cubeShape words measured
  refine ⟨?_, fitWords_attributeShape words member stored⟩
  rw [← layer, fitWords_triple_iff, wordLimit]
  simp only [Triple.withZ]
  omega

end Manifest

theorem Tiling.fitWords_of_within_counts
    {tiling : Tiling} {id : FragmentId} (words : fitWords tiling.cube = true)
    (inside : id.Within tiling.counts) : fitWords id = true := by
  have below (along : Axis) : id.get along < tiling.cube.get along := by
    have grid := Triple.within_iff.mp inside along
    rw [get_counts] at grid
    exact lt_cube_of_lt_count grid
  obtain ⟨x, y, z⟩ := fitWords_triple_iff.mp words
  exact fitWords_triple_iff.mpr
    ⟨Nat.lt_trans (below .inline) x, Nat.lt_trans (below .crossline) y,
      Nat.lt_trans (below .depth) z⟩

/-! ## Tasks of a plan -/

section Tasks

variable {τ ι : Type} [Divisible τ ι] [VolumeTask τ]

/-- A task for the data volume and one for every recorded attribute, given what
it means to extract from the volume of a name and tiling. -/
structure Planned (manifest : Manifest) (names : List String)
    (Extracts : String → Tiling → τ → Prop) (tiling : Tiling) (data : τ) (rest : List τ) :
    Prop where
  tiled : manifest.tiling = .ok tiling
  reads : ∀ name tiling task, Extracts name tiling task →
    (VolumeTask.base task).Reads name tiling
  data : Extracts TaskBase.dataAttribute tiling data
  layers : List.Forall₂
    (fun desc task => ∃ layer, manifest.attributeTiling desc = .ok layer ∧
      Extracts desc.name layer task)
    (manifest.recorded names) rest

namespace Planned

variable {manifest : Manifest} {names : List String} {Extracts : String → Tiling → τ → Prop}
  {tiling : Tiling} {data : τ} {rest : List τ}

/-- What follows from the extraction of a task holds of all tasks of a plan. -/
theorem imp {Other : String → Tiling → τ → Prop}
    (planned : Planned manifest names Extracts tiling data rest)
    (follows : ∀ name tiling task, Extracts name tiling task → Other name tiling task)
    (reads : ∀ name tiling task, Other name tiling task →
      (VolumeTask.base task).Reads name tiling) :
    Planned manifest names Other tiling data rest where
  tiled := planned.tiled
  reads := reads
  data := follows _ _ _ planned.data
  layers := by
    refine planned.layers.imp ?_
    rintro desc task ⟨layer, tiled, extracts⟩
    exact ⟨layer, tiled, follows _ _ _ extracts⟩

theorem volumeNames (planned : Planned manifest names Extracts tiling data rest) :
    (data :: rest).map volumeName =
      TaskBase.dataAttribute :: (manifest.recorded names).map AttributeDesc.name := by
  have named : volumeName data = TaskBase.dataAttribute :=
    (planned.reads _ _ _ planned.data).named
  have others : rest.map volumeName = (manifest.recorded names).map AttributeDesc.name := by
    refine (map_eq_map_iff_forall₂.mpr (planned.layers.imp ?_)).symm
    rintro desc task ⟨layer, _, extracts⟩
    exact (planned.reads _ _ _ extracts).named.symm
  rw [List.map_cons, named, others]

/-- A task extracts from the data volume or from the volume of a recorded
attribute. -/
theorem extracts_of_mem (planned : Planned manifest names Extracts tiling data rest) {task : τ}
    (member : task ∈ data :: rest) :
    Extracts TaskBase.dataAttribute tiling task ∨
      ∃ name ∈ names, ∃ desc layer, manifest.attribute? name = some desc ∧
        manifest.attributeTiling desc = .ok layer ∧ Extracts name layer task := by
  rcases List.mem_cons.mp member with rfl | later
  · exact Or.inl planned.data
  · obtain ⟨desc, recorded, layer, tiled, extracts⟩ :=
      exists_item_of_forall₂ planned.layers later
    obtain ⟨name, requested, found⟩ := Manifest.mem_recorded.mp recorded
    rw [(Manifest.attribute?_eq_some found).2] at extracts
    exact Or.inr ⟨name, requested, desc, layer, found, tiled, extracts⟩

/-- Every task extracts from a volume whose extents are words. -/
theorem exists_volume (planned : Planned manifest names Extracts tiling data rest)
    (words : fitWords manifest = true) :
    ∀ task ∈ data :: rest, ∃ name tiling, Extracts name tiling task ∧
      fitWords tiling.cube = true ∧ fitWords tiling.fragment = true := by
  intro task member
  rcases planned.extracts_of_mem member with
    extracts | ⟨name, _, desc, layer, found, tiled, extracts⟩
  · exact ⟨_, _, extracts, Manifest.fitWords_tiling words planned.tiled⟩
  · have stored := (Manifest.attribute?_eq_some found).1
    exact ⟨_, layer, extracts, Manifest.fitWords_attributeTiling words stored tiled⟩

/-- Attribute volumes have the extents of the cube and a single layer in depth. -/
theorem layer_cube (planned : Planned manifest names Extracts tiling data rest)
    {desc : AttributeDesc} {layer : Tiling} (tiled : manifest.attributeTiling desc = .ok layer) :
    layer.cube = tiling.cube.withZ 1 :=
  Manifest.cube_of_attributeTiling planned.tiled tiled

/-- What holds of the units of every task holds of the units of every volume. -/
theorem volumes
    {attributes : List String}
    (planned : Planned manifest (normalizedAttributes attributes) Extracts tiling data rest)
    (noData : manifest.attribute? TaskBase.dataAttribute = none) (taskSize : Nat)
    (Covers : Tiling → List τ → Prop)
    (covers : ∀ name tiling task, Extracts name tiling task → Covers tiling (units taskSize task)) :
    Covers tiling (((data :: rest).flatMap (units taskSize)).filter fun unit =>
        volumeName unit = TaskBase.dataAttribute) ∧
      ∀ name ∈ normalizedAttributes attributes, ∀ desc, manifest.attribute? name = some desc →
        ∃ layer, manifest.attributeTiling desc = .ok layer ∧
          Covers layer (((data :: rest).flatMap (units taskSize)).filter fun unit =>
            volumeName unit = name) := by
  have distinct : ((data :: rest).map volumeName).Nodup := by
    rw [planned.volumeNames]
    exact Manifest.volumeNames_nodup noData attributes
  constructor
  · have named := (planned.reads _ _ _ planned.data).named
    have only := filter_units_of_mem distinct List.mem_cons_self taskSize
    rw [volumeName, named] at only
    rw [only]
    exact covers _ _ _ planned.data
  · intro name requested desc found
    have recorded : desc ∈ manifest.recorded (normalizedAttributes attributes) :=
      Manifest.mem_recorded.mpr ⟨name, requested, found⟩
    obtain ⟨task, member, layer, tiled, extracts⟩ :=
      exists_result_of_forall₂ planned.layers recorded
    have named := (planned.reads _ _ _ extracts).named
    have only := filter_units_of_mem distinct (List.mem_cons_of_mem data member) taskSize
    rw [volumeName, named, (Manifest.attribute?_eq_some found).2] at only
    refine ⟨layer, tiled, ?_⟩
    rw [only]
    exact covers _ _ _ extracts

end Planned

end Tasks

end SurveyCube
