import SurveyCube.Proofs.Manifest

/-!
# What validation promises

A valid manifest has line numbers along three axes and tilings of all of its
volumes.  Planning takes these facts from `Manifest.Valid` and never looks at a
check again.

An invalid manifest is of an unsupported version, or else it is no valid
document.
-/

namespace SurveyCube.Manifest

variable {manifest : Manifest}

/-- What planning relies on. -/
structure Valid (manifest : Manifest) : Prop where
  axes : manifest.lineNumbers.length = 3
  tiled : ∃ tiling, manifest.tiling = .ok tiling
  layered : ∀ desc ∈ manifest.attributes, ∃ layer, manifest.attributeTiling desc = .ok layer

/-! ## Valid manifests -/

theorem exists_tiling_of_validateData (checked : manifest.validateData = .ok ()) :
    ∃ tiling, manifest.tiling = .ok tiling := by
  obtain ⟨cube, measured, checked⟩ := bind_eq_ok.mp checked
  obtain ⟨fragment, stored, checked⟩ := bind_eq_ok.mp checked
  split at checked
  · rename_i tiling tiled
    obtain ⟨rfl, rfl⟩ := Tiling.ofShapes_ok tiled
    exact ⟨tiling, tiling_eq_ok.mpr ⟨measured, stored⟩⟩
  · cases checked

theorem exists_tiling_of_validateAttribute
    {desc : AttributeDesc} (checked : manifest.validateAttribute desc = .ok ()) :
    ∃ layer, manifest.attributeTiling desc = .ok layer := by
  obtain ⟨cube, measured, checked⟩ := bind_eq_ok.mp checked
  obtain ⟨fragment, stored, checked⟩ := bind_eq_ok.mp checked
  split at checked
  · rename_i layer tiled
    obtain ⟨rfl, rfl⟩ := Tiling.ofShapes_ok tiled
    exact ⟨layer, attributeTiling_eq_ok.mpr ⟨measured, stored⟩⟩
  · cases checked

theorem valid_of_validate (validated : manifest.validate = .ok ()) : manifest.Valid := by
  unfold validate at validated
  split at validated
  · cases validated
  · split at validated
    · cases validated
    · rename_i axes
      split at validated
      · cases validated
      · obtain ⟨_, data, attributes⟩ := bind_eq_ok.mp validated
        refine ⟨by omega, exists_tiling_of_validateData data, ?_⟩
        intro desc member
        exact exists_tiling_of_validateAttribute (forM_eq_ok.mp attributes desc member)

/-! ## Invalid manifests -/

section Faults

variable {fault : Fault}

theorem kind_of_cubeShape_eq_error (fails : manifest.cubeShape = .error fault) :
    fault.kind = .invalidDocument := by
  unfold cubeShape at fails
  split at fails
  · cases fails
  · cases fails
    rfl

theorem kind_of_fragmentShape_eq_error (fails : manifest.fragmentShape = .error fault) :
    fault.kind = .invalidDocument := by
  rcases bind_eq_error.mp fails with missing | ⟨volume, _, shapeless⟩
  · unfold dataVolume at missing
    split at missing
    · cases missing
    · cases missing
      rfl
  · split at shapeless
    · cases shapeless
    · cases shapeless
      rfl

theorem kind_of_attributeCubeShape_eq_error (fails : manifest.attributeCubeShape = .error fault) :
    fault.kind = .invalidDocument := by
  rcases bind_eq_error.mp fails with unmeasured | ⟨cube, _, impossible⟩
  · exact kind_of_cubeShape_eq_error unmeasured
  · cases impossible

theorem kind_of_shape_eq_error {desc : AttributeDesc} (fails : desc.shape = .error fault) :
    fault.kind = .invalidDocument := by
  unfold AttributeDesc.shape at fails
  split at fails
  · cases fails
  · cases fails
    rfl

theorem kind_of_validateData_eq_error (fails : manifest.validateData = .error fault) :
    fault.kind = .invalidDocument := by
  rcases bind_eq_error.mp fails with unmeasured | ⟨cube, _, fails⟩
  · exact kind_of_cubeShape_eq_error unmeasured
  · rcases bind_eq_error.mp fails with shapeless | ⟨fragment, _, fails⟩
    · exact kind_of_fragmentShape_eq_error shapeless
    · split at fails
      · cases fails
      · cases fails
        rfl

theorem kind_of_validateAttribute_eq_error
    {desc : AttributeDesc} (fails : manifest.validateAttribute desc = .error fault) :
    fault.kind = .invalidDocument := by
  rcases bind_eq_error.mp fails with unmeasured | ⟨cube, _, fails⟩
  · exact kind_of_attributeCubeShape_eq_error unmeasured
  · rcases bind_eq_error.mp fails with shapeless | ⟨fragment, _, fails⟩
    · exact kind_of_shape_eq_error shapeless
    · split at fails
      · cases fails
      · cases fails
        rfl

/-- A manifest of the supported version fails as a document. -/
theorem kind_of_validate_eq_error (fails : manifest.validate = .error fault) :
    (manifest.formatVersion ≠ Fault.formatVersion ∧
      fault = .unsupportedFormatVersion (toString manifest.formatVersion)) ∨
    (manifest.formatVersion = Fault.formatVersion ∧ fault.kind = .invalidDocument) := by
  unfold validate at fails
  split at fails
  · rename_i other
    cases fails
    exact Or.inl ⟨other, rfl⟩
  · rename_i supported
    refine Or.inr ⟨of_not_not supported, ?_⟩
    split at fails
    · cases fails
      rfl
    · split at fails
      · cases fails
        rfl
      · rcases bind_eq_error.mp fails with data | ⟨_, _, attributes⟩
        · exact kind_of_validateData_eq_error data
        · obtain ⟨desc, _, here⟩ := exists_of_forM_eq_error attributes
          exact kind_of_validateAttribute_eq_error here

end Faults

end SurveyCube.Manifest
