import SurveyCube.Manifest
import SurveyCube.Storage.Basic

/-!
# Stored manifests

A manifest is stored as an indented document under a key made from the id of
its survey.  What is fetched is validated; what is stored need not be valid.
-/

namespace SurveyCube.Manifest

def key (survey : String) : String :=
  survey ++ "/manifest.json"

variable {σ : Type} [Storage σ]

/-- The manifest of a survey.  A missing manifest is the concern of whoever
asked for it. -/
def fetch (storage : σ) (survey : String) : Except Fault Manifest :=
  match Storage.read storage (key survey) with
  | .ok document => ofDocument document
  | .error .missing => .error (.manifestNotFound survey)
  | .error .unusable => .error (.io .unusable)

def store (storage : σ) (survey : String) (manifest : Manifest) : σ × Except Fault Unit :=
  let (storage, outcome) :=
    Storage.write storage (key survey) (Json.indented (toDatum manifest))
  (storage, outcome.mapError .io)

end SurveyCube.Manifest
