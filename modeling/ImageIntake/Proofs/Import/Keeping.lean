/-
  ImageIntake.Proofs.Import.Keeping

  What an import keeps of the state of its data source: whatever its operations and its
  own steps keep (`Keeps`).  One phase keeps it (`Keeps.step`), by induction so does the
  whole way through the phases (`Keeps.drive?`), and settling and closing do, so that a
  run does, however it ends (`Keeps.run?`).
-/

import ImageIntake.Proofs.Import.Account

namespace ImageIntake

open ImageIntake.Action

namespace Import

variable {σ : Type} {i : Import σ} {P : σ → Prop}

/-- An import everything of which keeps something of the state. -/
structure Keeps (i : Import σ) (P : σ → Prop) : Prop where
  record : ∀ r s, P s → P (i.record r s)
  info : ∀ s, P s → P (i.source.info.after s).2
  transfer : ∀ s, P s → P (i.transfer.after s).2
  process : ∀ s, P s → P (i.source.process.after s).2
  url : ∀ s, P s → P (i.source.url.after s).2
  close : ∀ s, P s → P (i.source.close.after s).2
  resize : ∀ path s, P s → P ((i.resize path).after s).2
  finalize : ∀ url path s, P s → P ((i.finalize url path).after s).2

/-! ## Phases -/

theorem Keeps.advance (h : i.Keeps P) (phase : Phase) (report : Report) {s : σ} (h_now : P s) :
    P ((i.advance phase).after (report, s)).2.2 := by
  cases phase with
  | info => exact h.info s h_now
  | transferDataFile => exact h.transfer s h_now
  | resize =>
    have h_resized := h.resize (i.imageOf report) s h_now
    rw [after_resize]
    rcases h_after : (i.resize (i.imageOf report)).after s with ⟨f | _, t⟩
    all_goals rw [h_after] at h_resized
    · exact h_resized
    · exact h.process t h_resized
  | convert =>
    have h_located := h.url s h_now
    rw [after_convert]
    rcases h_after : i.source.url.after s with ⟨f | url, t⟩
    all_goals rw [h_after] at h_located
    · exact h_located
    · have h_handed := h.finalize url (i.imageOf report) t h_located
      dsimp only
      rcases h_final : (i.finalize url (i.imageOf report)).after t with ⟨f | _, u⟩
      all_goals
        rw [h_final] at h_handed
        exact h_handed
  | error => exact h_now
  | done => exact h_now

theorem Keeps.step (h : i.Keeps P) (phase : Phase) (report : Report) {s : σ} (h_now : P s) :
    P ((i.step phase).after (report, s)).2.2 := by
  rw [after_step]
  exact h.advance phase _ (h.record _ s h_now)

theorem Keeps.drive? (h : i.Keeps P) (fuel : Nat) (phase : Phase) {report report' : Report}
    {s s' : σ} {outcome : Except Failure Unit} (h_now : P s)
    (h_drive : i.drive? fuel phase (report, s) = some (outcome, report', s')) : P s' := by
  induction fuel generalizing phase report s with
  | zero =>
    rw [Import.drive?] at h_drive
    split at h_drive
    · cases h_drive
      exact h_now
    · cases h_drive
  | succ fuel ih =>
    have h_next := h.step phase report h_now
    rw [Import.drive?] at h_drive
    split at h_drive
    · cases h_drive
      exact h_now
    · rcases h_after : (i.step phase).after (report, s) with ⟨f | next, later, t⟩
      all_goals rw [h_after] at h_next h_drive
      · cases h_drive
        exact h_next
      · exact ih next h_next h_drive

/-! ## The whole import -/

theorem Keeps.settle (h : i.Keeps P) (outcome : Except Failure Unit) (report : Report) {s : σ}
    (h_now : P s) : P (i.settle outcome report s).2.2 := by
  unfold Import.settle
  cases outcome with
  | ok => exact h_now
  | error f =>
    dsimp only
    split
    · exact h.record _ s h_now
    · exact h_now

theorem Keeps.conclude (h : i.Keeps P) (report : Report) {s : σ} (h_now : P s) :
    P (i.conclude report s).2.2 := by
  have h_closed := h.close s h_now
  unfold Import.conclude
  rcases h_after : i.source.close.after s with ⟨f | _, t⟩
  all_goals rw [h_after] at h_closed
  · dsimp only
    split
    · exact h.record _ t h_closed
    · exact h_closed
  · exact h_closed

/-- However an import ends, it keeps what everything of it keeps. -/
theorem Keeps.run? (h : i.Keeps P) {fuel : Nat} {s s' : σ} {outcome : Except Failure Report}
    (h_now : P s) (h_run : i.run? fuel s = some (outcome, s')) : P s' := by
  unfold Import.run? at h_run
  rcases h_drive : i.drive? fuel .info ({}, s) with _ | ⟨driven, report, t⟩
  all_goals rw [h_drive] at h_run
  · cases h_run
  · have h_settled := h.settle driven report (h.drive? fuel .info h_now h_drive)
    have h_concluded := h.conclude (i.settle driven report t).2.1 h_settled
    have h_state : (i.conclude (i.settle driven report t).2.1 (i.settle driven report t).2.2).2.2 =
        s' := by
      refine Eq.trans ?_ (congrArg Prod.snd (Option.some.inj h_run))
      dsimp only
      split <;> rfl
    rwa [h_state] at h_concluded

end Import

end ImageIntake
