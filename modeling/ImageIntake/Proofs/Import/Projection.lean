/-
  ImageIntake.Proofs.Import.Projection

  Imports of which only a part of the state is looked at.  If each operation comes to
  the same as another on what is seen of the state (`SeenAs`), then so does a step from
  phase to phase, by induction so does the whole way, and so do the settling and the
  closing: a run is seen as a run (`SeenAs.run?`).  This is what makes it safe to keep
  notes beside the state of an import.
-/

import ImageIntake.Proofs.Import.Account

namespace ImageIntake

open ImageIntake.Action

variable {σ τ α : Type} {look : σ → τ}

/-- On what is seen of the state, an action comes to the same as another and leaves the same. -/
def Action.SeenAs (look : σ → τ) (a : Action σ α) (b : Action τ α) : Prop :=
  ∀ s, b.after (look s) = ((a.after s).1, look (a.after s).2)

namespace Import

/-- Imports everything of which is seen as its counterpart. -/
structure SeenAs (look : σ → τ) (i : Import σ) (j : Import τ) : Prop where
  record : ∀ r s, j.record r (look s) = look (i.record r s)
  info : i.source.info.SeenAs look j.source.info
  transfer : ∀ dir, (i.source.transfer dir).SeenAs look (j.source.transfer dir)
  transferFile : ∀ path, (i.source.transferFile path).SeenAs look (j.source.transferFile path)
  process : i.source.process.SeenAs look j.source.process
  url : i.source.url.SeenAs look j.source.url
  close : i.source.close.SeenAs look j.source.close
  resize : ∀ path, (i.resize path).SeenAs look (j.resize path)
  finalize : ∀ url path, (i.finalize url path).SeenAs look (j.finalize url path)
  dataFile : j.dataFile = i.dataFile
  scratchDir : j.scratchDir = i.scratchDir
  scratchFileName : j.scratchFileName = i.scratchFileName

namespace SeenAs

variable {i : Import σ} {j : Import τ} (h : i.SeenAs look j)
include h

/-! ## Phases -/

theorem scratch? : j.scratch? = i.scratch? := by
  unfold Import.scratch?
  rw [h.scratchDir]

theorem imagePath : j.imagePath = i.imagePath := by
  unfold Import.imagePath
  rw [h.scratch?, h.scratchFileName, h.dataFile]

theorem imageOf (report : Report) : j.imageOf report = i.imageOf report := by
  unfold Import.imageOf
  rw [h.dataFile]

theorem converts : i.transfer.SeenAs look j.transfer := by
  unfold Import.transfer
  rw [h.scratch?, h.dataFile]
  cases i.scratch? with
  | none => exact h.transferFile _
  | some dir => exact h.transfer dir

theorem advance (phase : Phase) (report : Report) (s : σ) :
    (j.advance phase).after (report, look s) =
      (((i.advance phase).after (report, s)).1, ((i.advance phase).after (report, s)).2.1,
        look ((i.advance phase).after (report, s)).2.2) := by
  cases phase with
  | info => rw [after_info, after_info, h.info s]
  | transferDataFile =>
    rw [after_transferDataFile, after_transferDataFile, h.converts s, h.imagePath]
  | resize =>
    rw [after_resize, after_resize, h.imageOf, h.resize _ s]
    rcases (i.resize (i.imageOf report)).after s with ⟨f | _, t⟩
    · rfl
    · dsimp only
      rw [h.process t]
  | convert =>
    rw [after_convert, after_convert, h.imageOf, h.url s]
    rcases i.source.url.after s with ⟨f | url, t⟩
    · rfl
    · dsimp only
      rw [h.finalize url _ t]
      rcases (i.finalize url (i.imageOf report)).after t with ⟨f | _, u⟩ <;> rfl
  | error => rfl
  | done => rfl

theorem step (phase : Phase) (report : Report) (s : σ) :
    (j.step phase).after (report, look s) =
      (((i.step phase).after (report, s)).1, ((i.step phase).after (report, s)).2.1,
        look ((i.step phase).after (report, s)).2.2) := by
  rw [after_step, after_step, h.record]
  exact h.advance phase _ _

theorem drive? (fuel : Nat) (phase : Phase) (report : Report) (s : σ) :
    j.drive? fuel phase (report, look s) =
      (i.drive? fuel phase (report, s)).map fun (outcome, report, s) =>
        (outcome, report, look s) := by
  induction fuel generalizing phase report s with
  | zero =>
    rw [Import.drive?, Import.drive?]
    by_cases h_done : phase = .done
    · rw [if_pos h_done, if_pos h_done]
      rfl
    · rw [if_neg h_done, if_neg h_done]
      rfl
  | succ fuel ih =>
    rw [Import.drive?, Import.drive?]
    by_cases h_done : phase = .done
    · rw [if_pos h_done, if_pos h_done]
      rfl
    · rw [if_neg h_done, if_neg h_done, h.step]
      rcases (i.step phase).after (report, s) with ⟨f | next, report₁, s₁⟩
      · rfl
      · exact ih next report₁ s₁

/-! ## The whole import -/

theorem settle (outcome : Except Failure Unit) (report : Report) (s : σ) :
    j.settle outcome report (look s) =
      ((i.settle outcome report s).1, (i.settle outcome report s).2.1,
        look (i.settle outcome report s).2.2) := by
  unfold Import.settle
  cases outcome with
  | ok => rfl
  | error f =>
    dsimp only
    rw [h.record]
    split <;> rfl

theorem conclude (report : Report) (s : σ) :
    j.conclude report (look s) =
      ((i.conclude report s).1, (i.conclude report s).2.1, look (i.conclude report s).2.2) := by
  unfold Import.conclude
  rw [h.close s]
  rcases i.source.close.after s with ⟨f | _, t⟩
  · dsimp only
    rw [h.record]
    split <;> rfl
  · rfl

/-- A run comes to what the run comes to that it is seen as. -/
theorem run? (fuel : Nat) (s : σ) :
    j.run? fuel (look s) = (i.run? fuel s).map fun (outcome, s) => (outcome, look s) := by
  have h_drive := h.drive? fuel .info {} s
  unfold Import.run?
  rw [h_drive, Option.map_map, Option.map_map]
  congr 1
  funext ⟨outcome, report, t⟩
  dsimp only [Function.comp]
  rw [h.settle]
  dsimp only
  rw [h.conclude]
  rcases (i.settle outcome report t).1 with f | _
  all_goals
    rcases (i.conclude (i.settle outcome report t).2.1 (i.settle outcome report t).2.2).1 with f | _
    all_goals rfl

end SeenAs

end Import

end ImageIntake
