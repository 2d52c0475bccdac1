/-
  ImageIntake.Proofs.Import.Tracking

  Imports whose collaborators track each other: they report the same and leave their
  surroundings related.
-/

import ImageIntake.Proofs.Import.Matching
import ImageIntake.Proofs.Source.Tracking

namespace ImageIntake

open ImageIntake.Action ImageIntake.Source

variable {ω τ : Type} {R : ω → τ → Prop} {env : Collaborators ω} {other : Collaborators τ}

theorem Import.Report.eq_of_alike_same {report other : Report} (h : report.Alike .same other) :
    report = other := by
  obtain ⟨phases, imagePath, failure⟩ := report
  obtain ⟨rfl, rfl, h_failure⟩ := h
  have h_same : failure = other.failure := eq_of_rel h_failure
  rw [h_same]

/-- Fetching a source comes to the same with collaborators who track each other. -/
theorem tracks_fetch (h_env : env.Tracks R other) (dataFile : String) (scratchDir : Option String)
    (scratchFileName : String) (source : Source) :
    (source.fetch env dataFile scratchDir scratchFileName).Tracks R
      (source.fetch other dataFile scratchDir scratchFileName) := by
  intro s t h_rel
  obtain ⟨h_outcome, h_after⟩ :=
    matches_fetch h_env.matches dataFile scratchDir scratchFileName (alike_same source) s t h_rel
  have h_same : Agree Eq Eq _ _ := h_outcome.mono fun _ _ => Import.Report.eq_of_alike_same
  exact ⟨h_same.eq, h_after⟩

end ImageIntake
