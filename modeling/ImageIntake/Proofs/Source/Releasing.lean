/-
  ImageIntake.Proofs.Source.Releasing

  Which failures are of a stream that could not be released.  Whatever else fails in a call
  is reported as something else, and a stream that was released is not released again; so
  only the first closing of a source can end in such a failure (`perform_ofRelease`).
-/

import ImageIntake.Proofs.Feed
import ImageIntake.Proofs.Site
import ImageIntake.Proofs.Source.Call
import ImageIntake.Proofs.Space

namespace ImageIntake

open ImageIntake.Action

/-! ## Failures to release -/

/-- Whether a failure is one to release a stream. -/
def Failure.OfRelease (f : Failure) : Prop := f.kind? = some .resourceReleaseFailed

theorem Failure.not_ofRelease_of_none {f : Failure} (h : f.kind? = none) : ¬f.OfRelease := by
  unfold OfRelease
  rw [h]
  nofun

theorem Failure.not_ofRelease_of_some {f : Failure} {kind : FailureKind} (h : f.kind? = some kind)
    (h_kind : kind ≠ .resourceReleaseFailed) : ¬f.OfRelease := by
  unfold OfRelease
  rw [h]
  exact fun h_same => h_kind (Option.some.inj h_same)

namespace Source

theorem not_ofRelease_filterFor {readers : Readers} {f : Failure}
    (h : filterFor readers = .error f) : ¬f.OfRelease := by
  unfold filterFor at h
  split at h
  · cases h
  · split at h
    · cases h
    · split at h
      · cases h
      · split at h
        · cases h
        · cases h
          exact Failure.not_ofRelease_of_some rfl (by decide)

theorem not_ofRelease_info {ω : Type} {env : Collaborators ω} {source : Source} {s : ω} {f : Failure}
    (h : ((info env).after (source, s)).1 = .error f) : ¬f.OfRelease := by
  rw [after_info] at h
  split at h
  · cases h
    exact Failure.not_ofRelease_of_some rfl (by decide)
  · split at h
    · rename_i g state h_build
      rw [after_build] at h_build
      cases h
      split at h_build
      · cases h_build
      · split at h_build
        · cases h_build
        · split at h_build
          · rename_i h_ends
            cases h_build
            exact Failure.not_ofRelease_of_none (Failure.kind?_of_endsProgram h_ends)
          · cases h_build
            exact Failure.not_ofRelease_of_some rfl (by decide)
    · split at h
      · rename_i h_filter
        cases h
        exact not_ofRelease_filterFor h_filter
      · split at h <;> cases h
        exact Failure.not_ofRelease_of_none rfl

theorem not_ofRelease_requestFor {source : Source} {operation dest : String} {f : Failure}
    (h : source.requestFor operation dest = .error f) : ¬f.OfRelease := by
  unfold requestFor at h
  split at h
  · cases h
    exact Failure.not_ofRelease_of_some rfl (by decide)
  · split at h
    · cases h
      exact Failure.not_ofRelease_of_none rfl
    · rename_i readers _ _ _ _
      cases h_filter : filterFor readers with
      | error g =>
        rw [h_filter] at h
        cases h
        exact not_ofRelease_filterFor h_filter
      | ok filter =>
        rw [h_filter] at h
        cases h

section

variable {converter : Conversion.Converter Site} {source : Source} {site : Site} {f : Failure}

theorem not_ofRelease_convertTo {operation dest : String}
    (h : ((convertTo (Site.collaborators converter) operation dest).after (source, site)).1 =
      .error f) : ¬f.OfRelease := by
  rw [after_convertTo] at h
  split at h
  · rename_i h_request
    cases h
    exact not_ofRelease_requestFor h_request
  · rename_i request _
    split at h
    · cases h
    · rename_i g after h_convert
      cases h
      have h_kind := converter.kind?_of_convert request site (congrArg Prod.fst h_convert)
      unfold notConverted
      split
      · rcases h_kind with h_none | h_some
        · exact Failure.not_ofRelease_of_none h_none
        · exact Failure.not_ofRelease_of_some h_some (by decide)
      · exact Failure.not_ofRelease_of_some rfl (by decide)

theorem not_ofRelease_transfer {path : String}
    (h : ((transfer (Site.collaborators converter) path).after (source, site)).1 = .error f) :
    ¬f.OfRelease := by
  rw [after_transfer] at h
  split at h
  · rename_i g after h_space
    cases h
    have h_refused : (Space.available path (Space.examine site.tree site.space path)).1 =
        .error f := congrArg Prod.fst h_space
    by_cases h_nul : '\x00' ∈ path.toList
    · rw [Space.available_of_nul _ _ h_nul] at h_refused
      cases h_refused
      exact Failure.not_ofRelease_of_none rfl
    · obtain ⟨size, h_size⟩ := Space.isOk_available site.tree site.space h_nul
      rw [h_size] at h_refused
      cases h_refused
  · split at h
    · cases h
      exact Failure.not_ofRelease_of_some rfl (by decide)
    · exact not_ofRelease_convertTo h

theorem not_ofRelease_cancel
    (h : ((cancel (Site.collaborators converter)).after (source, site)).1 = .error f) :
    ¬f.OfRelease := by
  rw [after_cancel] at h
  split at h
  · cases h
  · split at h
    · cases h
    · rename_i h_cancel
      cases h
      have h_ends := Feed.endsProgram_of_cancel (congrArg Prod.fst h_cancel)
      exact Failure.not_ofRelease_of_none (Failure.kind?_of_endsProgram h_ends)

theorem error_of_map {ε α β : Type} {k : α → β} {outcome : Except ε α} {e : ε}
    (h : outcome.map k = .error e) : outcome = .error e := by
  cases outcome with
  | error d => exact congrArg Except.error (Except.error.inj h)
  | ok a => cases h

/-- A stream that was released is not released again. -/
theorem not_ofRelease_close_of_released (h_released : source.released = true)
    (h : ((close (Site.collaborators converter)).after (source, site)).1 = .error f) :
    ¬f.OfRelease := by
  rw [after_close, after_release, if_pos h_released] at h
  exact not_ofRelease_cancel (error_of_map h)

/-- Only a closing fails to release the stream, and only as long as it was not released. -/
theorem perform_ofRelease {call : Call}
    (h : ((call.perform (Site.collaborators converter)).after (source, site)).1 = .error f)
    (h_kind : f.OfRelease) : call = .close ∧ source.released = false := by
  cases call with
  | process => cases h
  | url => cases h
  | info =>
    rw [Call.perform, after_map] at h
    exact absurd h_kind (not_ofRelease_info (error_of_map h))
  | transfer path =>
    rw [Call.perform, after_map] at h
    exact absurd h_kind (not_ofRelease_transfer (error_of_map h))
  | transferFile path =>
    rw [Call.perform, after_map, after_transferFile] at h
    exact absurd h_kind (not_ofRelease_convertTo (error_of_map h))
  | cancel =>
    rw [Call.perform, after_map] at h
    exact absurd h_kind (not_ofRelease_cancel (error_of_map h))
  | close =>
    rw [Call.perform, after_map] at h
    refine ⟨rfl, Bool.eq_false_iff.mpr fun h_released => ?_⟩
    exact not_ofRelease_close_of_released h_released (error_of_map h) h_kind

end

end Source

end ImageIntake
