/-
  ImageIntake.Proofs.Source.Keeping

  What calls on a source keep of its surroundings: whatever the collaborators keep that a
  call turns to.  A call turns to no others, so that what all of them keep is kept by
  every call (`perform_keeps`).
-/

import ImageIntake.Proofs.Source.Call

namespace ImageIntake

open ImageIntake.Action

variable {ω : Type} {env : Collaborators ω} {P : ω → Prop}

/-- Collaborators each of whom keeps something of the surroundings. -/
structure Collaborators.Keeps (env : Collaborators ω) (P : ω → Prop) : Prop where
  record : ∀ r s, P s → P (env.record r s)
  classify : ∀ n s, P s → P ((env.classify n).after s).2
  closeReaders : ∀ s, P s → P (env.closeReaders.after s).2
  closeStream : ∀ s, P s → P (env.closeStream.after s).2
  usableSpace : ∀ path s, P s → P ((env.usableSpace path).after s).2
  convert : ∀ request s, P s → P ((env.convert request).after s).2
  cancel : ∀ s, P s → P (env.cancel.after s).2

namespace Source

variable (source : Source) {s : ω}

/-! ## Operations -/

theorem build_keeps (h_record : ∀ r s, P s → P (env.record r s))
    (h_classify : ∀ n s, P s → P ((env.classify n).after s).2) (h_now : P s) :
    P ((build env).after (source, s)).2.2 := by
  rw [after_build]
  cases source.readers with
  | some readers => exact h_now
  | none =>
    have h_classified := h_classify source.contentLength s h_now
    rcases h_after : (env.classify source.contentLength).after s with ⟨f | readers, t⟩
    · rw [h_after] at h_classified
      dsimp only
      split
      · exact h_classified
      · exact h_record _ t h_classified
    · rw [h_after] at h_classified
      exact h_classified

theorem info_keeps (h_record : ∀ r s, P s → P (env.record r s))
    (h_classify : ∀ n s, P s → P ((env.classify n).after s).2) (h_now : P s) :
    P ((info env).after (source, s)).2.2 := by
  have h_built := build_keeps source h_record h_classify h_now
  rw [after_info]
  split
  · exact h_now
  · rcases h_after : (build env).after (source, s) with ⟨f | readers, state⟩
    · rw [h_after] at h_built
      exact h_built
    · rw [h_after] at h_built
      dsimp only
      split
      · exact h_built
      · split
        · exact h_built
        · exact h_record _ _ h_built

theorem convertTo_keeps (h_convert : ∀ request s, P s → P ((env.convert request).after s).2)
    (operation dest : String) (h_now : P s) :
    P ((convertTo env operation dest).after (source, s)).2.2 := by
  rw [after_convertTo]
  cases source.requestFor operation dest with
  | error f => exact h_now
  | ok request =>
    have h_converted := h_convert request s h_now
    dsimp only
    rcases h_after : (env.convert request).after s with ⟨f | _, t⟩
    all_goals
      rw [h_after] at h_converted
      exact h_converted

theorem transfer_keeps (h_space : ∀ path s, P s → P ((env.usableSpace path).after s).2)
    (h_convert : ∀ request s, P s → P ((env.convert request).after s).2) (path : String)
    (h_now : P s) : P ((transfer env path).after (source, s)).2.2 := by
  have h_probed := h_space path s h_now
  rw [after_transfer]
  rcases h_after : (env.usableSpace path).after s with ⟨f | size, t⟩
  all_goals rw [h_after] at h_probed
  · exact h_probed
  · dsimp only
    split
    · exact h_probed
    · exact convertTo_keeps source h_convert _ _ h_probed

theorem cancel_keeps (h_cancel : ∀ s, P s → P (env.cancel.after s).2) (h_now : P s) :
    P ((cancel env).after (source, s)).2.2 := by
  have h_cancelled := h_cancel s h_now
  rw [after_cancel]
  split
  · exact h_now
  · rcases h_after : env.cancel.after s with ⟨f | _, t⟩
    all_goals
      rw [h_after] at h_cancelled
      exact h_cancelled

theorem close_keeps (h_readers : ∀ s, P s → P (env.closeReaders.after s).2)
    (h_stream : ∀ s, P s → P (env.closeStream.after s).2)
    (h_cancel : ∀ s, P s → P (env.cancel.after s).2) (h_now : P s) : P ((close env).after (source, s)).2.2 := by
  have h_released : P ((release env).after (source, s)).2.2 := by
    rw [after_release]
    split
    · exact h_now
    · dsimp only
      split
      · exact h_readers s h_now
      · exact h_stream s h_now
  rw [after_close]
  rcases h_after : (release env).after (source, s) with ⟨f | _, source', t⟩
  all_goals
    rw [h_after] at h_released
    dsimp only
  · split
    · exact h_released
    · exact cancel_keeps source' h_cancel h_released
  · exact cancel_keeps source' h_cancel h_released

/-! ## Calls -/

/-- A call keeps what all collaborators keep. -/
theorem perform_keeps (h : env.Keeps P) (call : Call) (h_now : P s) :
    P ((call.perform env).after (source, s)).2.2 := by
  cases call with
  | process => exact h_now
  | url => exact h_now
  | info =>
    simp only [Call.perform, after_map]
    exact info_keeps source h.record h.classify h_now
  | transfer path =>
    simp only [Call.perform, after_map]
    exact transfer_keeps source h.usableSpace h.convert path h_now
  | transferFile path =>
    simp only [Call.perform, after_map]
    exact convertTo_keeps source h.convert _ path h_now
  | cancel =>
    simp only [Call.perform, after_map]
    exact cancel_keeps source h.cancel h_now
  | close =>
    simp only [Call.perform, after_map]
    exact close_keeps source h.closeReaders h.closeStream h.cancel h_now

end Source

end ImageIntake
