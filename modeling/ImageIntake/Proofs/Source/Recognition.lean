/-
  ImageIntake.Proofs.Source.Recognition

  When a source knows its image: it has readers that show one it can read, and it can print
  the locator.  Asking it to classify the image comes to an answer exactly if the readers it
  works with are such (`answers_info_iff`), and no other call makes an image known.
-/

import ImageIntake.Proofs.Source.History

namespace ImageIntake.Source

open ImageIntake.Action

/-! ## Images that are known -/

/-- Whether readers of a source show an image that it can read and print the locator of. -/
structure Readable (source : Source) (readers : Readers) : Prop where
  kubevirt : source.contentType = .kubevirt
  filter : ∃ filter, filterFor readers = .ok filter
  printed : ∃ url, source.endpoint.redacted = .ok url

/-- Whether a source has such readers. -/
def Recognized (source : Source) : Prop :=
  ∃ readers, source.readers = some readers ∧ source.Readable readers

theorem recognized_congr {a b : Source} (h : b.reading = a.reading) :
    b.Recognized ↔ a.Recognized := by
  obtain ⟨h_fixed, h_readers, -⟩ : b.fixed = a.fixed ∧ b.readers = a.readers ∧ b.url = a.url := by
    simpa [reading] using h
  obtain ⟨h_endpoint, -, h_type, -⟩ : b.endpoint = a.endpoint ∧
      b.contentLength = a.contentLength ∧ b.contentType = a.contentType ∧
      b.certDir = a.certDir ∧ b.scratchFileName = a.scratchFileName := by
    simpa [fixed] using h_fixed
  unfold Recognized
  rw [h_readers]
  refine exists_congr fun readers => and_congr_right fun _ => ?_
  constructor
  · rintro ⟨h_kubevirt, h_filter, h_printed⟩
    exact ⟨h_type ▸ h_kubevirt, h_filter, h_endpoint ▸ h_printed⟩
  · rintro ⟨h_kubevirt, h_filter, h_printed⟩
    exact ⟨h_type ▸ h_kubevirt, h_filter, h_endpoint ▸ h_printed⟩

theorem recognized_of_located {source : Source} (h : source.located.Recognized) :
    source.Recognized := by
  obtain ⟨readers, h_readers, h_readable⟩ := h
  exact ⟨readers, h_readers, h_readable.kubevirt, h_readable.filter, h_readable.printed⟩

/-! ## Classifying -/

section

variable {ω : Type} (env : Collaborators ω)

/-- Whether a call comes to an answer. -/
def Call.Answers (call : Call) (state : Source × ω) : Prop :=
  ∃ answer, ((call.perform env).after state).1 = .ok answer

variable (source : Source) (s : ω)

theorem readable_of_info {phase : Phase} (h : ((info env).after (source, s)).1 = .ok phase) :
    ∃ readers, ((build env).after (source, s)).1 = .ok readers ∧ source.Readable readers := by
  rw [after_info] at h
  by_cases h_type : source.contentType = .kubevirt
  · rw [if_neg (not_not_intro h_type)] at h
    rcases h_build : (build env).after (source, s) with ⟨f | readers, state⟩
    all_goals rw [h_build] at h; dsimp only at h
    · cases h
    · cases h_filter : filterFor readers with
      | error f =>
        rw [h_filter] at h
        cases h
      | ok filter =>
        rw [h_filter] at h
        cases h_url : source.endpoint.redacted with
        | error fault =>
          rw [h_url] at h
          cases h
        | ok url => exact ⟨readers, rfl, h_type, ⟨filter, h_filter⟩, url, h_url⟩
  · rw [if_pos h_type] at h
    cases h

theorem info_of_readable {readers : Readers}
    (h_build : ((build env).after (source, s)).1 = .ok readers) (h : source.Readable readers) :
    ((info env).after (source, s)).1 = .ok .transferDataFile := by
  obtain ⟨h_type, ⟨filter, h_filter⟩, url, h_url⟩ := h
  rw [after_info, if_neg (not_not_intro h_type)]
  rcases h_after : (build env).after (source, s) with ⟨f | built, state⟩
  all_goals
    rw [h_after] at h_build
    cases h_build
  dsimp only
  rw [h_filter, h_url]

/-- What asking to classify an image leaves known is what it works with. -/
theorem readable_of_recognized (h : ((info env).after (source, s)).2.1.Recognized) :
    ∃ readers, ((build env).after (source, s)).1 = .ok readers ∧ source.Readable readers := by
  rw [after_info] at h
  by_cases h_type : source.contentType = .kubevirt
  · rw [if_neg (not_not_intro h_type)] at h
    obtain ⟨readers, t, h_build, -⟩ | ⟨-, g, t, h_build, h_none, -⟩ := build_worked env source s rfl
    all_goals rw [h_build] at h ⊢; dsimp only at h
    · refine ⟨readers, rfl, ?_⟩
      have h_shown : Recognized { source with readers := some readers } := by
        split at h
        · exact h
        · split at h <;> exact recognized_of_located h
      obtain ⟨_, ⟨⟩, h_readable⟩ := h_shown
      exact ⟨h_readable.kubevirt, h_readable.filter, h_readable.printed⟩
    · obtain ⟨readers, h_readers, -⟩ := h
      rw [h_none] at h_readers
      cases h_readers
  · rw [if_pos h_type] at h
    obtain ⟨_, _, h_readable⟩ := h
    exact absurd h_readable.kubevirt h_type

theorem answers_info_iff :
    Call.info.Answers env (source, s) ↔
      ∃ readers, ((build env).after (source, s)).1 = .ok readers ∧ source.Readable readers := by
  unfold Call.Answers Call.perform
  rw [after_map]
  constructor
  · rintro ⟨answer, h_answer⟩
    cases h_info : ((info env).after (source, s)).1 with
    | error f =>
      rw [h_info] at h_answer
      cases h_answer
    | ok phase => exact readable_of_info env source s h_info
  · rintro ⟨readers, h_build, h_readable⟩
    rw [info_of_readable env source s h_build h_readable]
    exact ⟨_, rfl⟩

end

end ImageIntake.Source
