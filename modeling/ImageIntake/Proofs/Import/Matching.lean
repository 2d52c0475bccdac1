/-
  ImageIntake.Proofs.Import.Matching

  Imports whose collaborators match: they go through the same phases, end alike and
  leave their surroundings related.  One step from phase to phase does (`matches_step`),
  by induction so does the whole way (`matches_drive?`), and settling and closing add
  nothing that tells the two apart (`matches_settle`, `matches_conclude`).
-/

import ImageIntake.Proofs.Import.Conduct
import ImageIntake.Proofs.Source.Matching

namespace ImageIntake

open ImageIntake.Action ImageIntake.Source

variable {ω τ : Type} {L : Likeness} {R : ω → τ → Prop}

/-! ## Reports -/

/-- Reports that are the same but for failures that are alike. -/
structure Import.Report.Alike (L : Likeness) (report other : Report) : Prop where
  phases : other.phases = report.phases
  imagePath : other.imagePath = report.imagePath
  failure : Option.Rel L.failure report.failure other.failure

namespace Import.Report.Alike

variable {report other : Report} (h : report.Alike L other)
include h

theorem visit (phase : Phase) : (report.visit phase).Alike L (other.visit phase) where
  phases := by
    rw [Report.visit, Report.visit, h.phases]
  imagePath := h.imagePath
  failure := h.failure

theorem failed {f g : Failure} (h_alike : L.failure f g) :
    (report.failed f).Alike L (other.failed g) where
  phases := by
    rw [Report.failed, Report.failed, ← L.phase? h_alike]
    exact (h.visit _).phases
  imagePath := h.imagePath
  failure := .some h_alike

theorem isNone : report.failure.isNone = other.failure.isNone := by
  have h_failure := h.failure
  generalize report.failure = x at h_failure ⊢
  generalize other.failure = y at h_failure ⊢
  cases h_failure <;> rfl

end Import.Report.Alike

/-- Related sources and surroundings behind reports that are alike. -/
abbrev Underway (L : Likeness) (R : ω → τ → Prop) :
    Import.Report × Source × ω → Import.Report × Source × τ → Prop :=
  Pairs (Import.Report.Alike L) (Pairs (Source.Alike L) R)

section

variable {env : Collaborators ω} {other : Collaborators τ} (h_env : env.Matches L R other)
  (dataFile : String) (scratchDir : Option String) (scratchFileName : String)
include h_env

/-! ## From phase to phase -/

theorem matches_step (phase : Phase) :
    ((importTo env dataFile scratchDir scratchFileName).step phase).Matches L Eq (Underway L R)
      ((importTo other dataFile scratchDir scratchFileName).step phase) := by
  rintro ⟨report, source, s⟩ ⟨report', source', t⟩ ⟨h_report, h_source, h_rel⟩
  dsimp only at h_report h_source h_rel
  have h_entered := h_env.record (Import.entering phase) s t h_rel
  have h_visited := h_report.visit phase
  rw [Import.after_step, Import.after_step]
  cases phase with
  | info =>
    obtain ⟨h_outcome, h_after⟩ := matches_info h_env (source, _) (source', _) ⟨h_source, h_entered⟩
    exact ⟨h_outcome, h_visited, h_after⟩
  | transferDataFile =>
    have h_transfer : (importTo env dataFile scratchDir scratchFileName).transfer.Matches L Eq
        (Pairs (Source.Alike L) R)
        (importTo other dataFile scratchDir scratchFileName).transfer := by
      unfold Import.transfer
      cases h_dir : scratchDir.filter (· ≠ "") with
      | none =>
        simp only [importTo, Import.scratch?, Import.plain, h_dir]
        exact matches_convertTo h_env "transfer_file" dataFile
      | some dir =>
        simp only [importTo, Import.scratch?, Import.plain, h_dir]
        exact matches_transfer h_env dir
    obtain ⟨h_outcome, h_after⟩ := h_transfer (source, _) (source', _) ⟨h_source, h_entered⟩
    exact ⟨h_outcome, ⟨h_visited.phases, rfl, h_visited.failure⟩, h_after⟩
  | resize => exact ⟨.ok rfl, h_visited, h_source, h_env.record _ _ _ h_entered⟩
  | convert => exact ⟨.ok rfl, h_visited, h_source, h_env.record _ _ _ h_entered⟩
  | error => exact ⟨.error (L.refl _), h_visited, h_source, h_entered⟩
  | done => exact ⟨.error (L.refl _), h_visited, h_source, h_entered⟩

theorem matches_drive? (fuel : Nat) (phase : Phase) {s s' : Import.Report × Source × ω}
    {t : Import.Report × Source × τ} {outcome : Except Failure Unit} (h_rel : Underway L R s t)
    (h_drive : (importTo env dataFile scratchDir scratchFileName).drive? fuel phase s =
      some (outcome, s')) :
    ∃ outcome' t', (importTo other dataFile scratchDir scratchFileName).drive? fuel phase t =
        some (outcome', t') ∧
      Agree L.failure Eq outcome outcome' ∧ Underway L R s' t' := by
  have h_finish : Underway L R (s.1.visit .done, s.2) (t.1.visit .done, t.2) :=
    ⟨h_rel.1.visit .done, h_rel.2⟩
  induction fuel generalizing phase s t with
  | zero =>
    rw [Import.drive?] at h_drive ⊢
    by_cases h_done : phase = .done
    · rw [if_pos h_done] at h_drive ⊢
      cases h_drive
      exact ⟨_, _, rfl, .ok rfl, h_finish⟩
    · rw [if_neg h_done] at h_drive
      cases h_drive
  | succ fuel ih =>
    rw [Import.drive?] at h_drive ⊢
    by_cases h_done : phase = .done
    · rw [if_pos h_done] at h_drive ⊢
      cases h_drive
      exact ⟨_, _, rfl, .ok rfl, h_finish⟩
    · rw [if_neg h_done] at h_drive ⊢
      rcases (matches_step h_env dataFile scratchDir scratchFileName phase).cases h_rel with
        ⟨next, _, s₁, t₁, h_s, h_t, rfl, h_rel'⟩ | ⟨f, g, s₁, t₁, h_s, h_t, h_alike, h_rel'⟩
      all_goals
        rw [h_s] at h_drive
        rw [h_t]
      · exact ih next h_rel' h_drive ⟨h_rel'.1.visit .done, h_rel'.2⟩
      · cases h_drive
        exact ⟨_, _, rfl, .error h_alike, h_rel'⟩

/-! ## The whole import -/

theorem matches_settle {outcome outcome' : Except Failure Unit}
    (h_outcome : Agree L.failure Eq outcome outcome') {report report' : Import.Report}
    (h_report : report.Alike L report') {s : Source × ω} {t : Source × τ}
    (h_rel : Pairs (Source.Alike L) R s t) :
    ∃ settled settled' reported reported' s' t',
      (importTo env dataFile scratchDir scratchFileName).settle outcome report s =
        (settled, reported, s') ∧
      (importTo other dataFile scratchDir scratchFileName).settle outcome' report' t =
        (settled', reported', t') ∧
      Agree L.failure Eq settled settled' ∧ reported.Alike L reported' ∧
      Pairs (Source.Alike L) R s' t' := by
  unfold Import.settle
  cases h_outcome with
  | ok h_value => exact ⟨_, _, _, _, s, t, rfl, rfl, .ok rfl, h_report, h_rel⟩
  | error h_alike =>
    rename_i f g
    dsimp only
    rw [← L.isPipeline h_alike]
    by_cases h_pipeline : f.isPipeline
    · have h_told : Import.importFailed g = Import.importFailed f := by
        rw [Import.importFailed, Import.importFailed, L.kind? h_alike, L.text h_alike]
      rw [if_pos h_pipeline, if_pos h_pipeline, h_told]
      exact ⟨_, _, _, _, _, _, rfl, rfl, .ok rfl, h_report.failed h_alike, h_rel.1,
        h_env.record _ _ _ h_rel.2⟩
    · rw [if_neg h_pipeline, if_neg h_pipeline]
      exact ⟨_, _, _, _, s, t, rfl, rfl, .error h_alike, h_report, h_rel⟩

theorem matches_conclude {report report' : Import.Report} (h_report : report.Alike L report')
    {s : Source × ω} {t : Source × τ} (h_rel : Pairs (Source.Alike L) R s t) :
    ∃ closing closing' reported reported' s' t',
      (importTo env dataFile scratchDir scratchFileName).conclude report s =
        (closing, reported, s') ∧
      (importTo other dataFile scratchDir scratchFileName).conclude report' t =
        (closing', reported', t') ∧
      Agree L.failure Eq closing closing' ∧ reported.Alike L reported' ∧
      Pairs (Source.Alike L) R s' t' := by
  unfold Import.conclude
  rw [show (importTo env dataFile scratchDir scratchFileName).source.close = close env from rfl,
    show (importTo other dataFile scratchDir scratchFileName).source.close = close other from rfl]
  rcases (matches_close h_env).cases h_rel with
    ⟨_, _, s', t', h_s, h_t, -, h_rel'⟩ | ⟨f, g, s', t', h_s, h_t, h_alike, h_rel'⟩
  all_goals
    rw [h_s, h_t]
    dsimp only
  · exact ⟨_, _, _, _, s', t', rfl, rfl, .ok rfl, h_report, h_rel'⟩
  · rw [← L.isPipeline h_alike, ← h_report.isNone]
    by_cases h_pipeline : f.isPipeline
    · have h_told : Import.releaseFailed g = Import.releaseFailed f := by
        rw [Import.releaseFailed, Import.releaseFailed, L.text h_alike]
      have h_noted := h_env.record (Import.releaseFailed f) _ _ h_rel'.2
      rw [if_pos h_pipeline, if_pos h_pipeline, h_told]
      refine ⟨_, _, _, _, _, _, rfl, rfl, .ok rfl, ?_, h_rel'.1, h_noted⟩
      split
      · exact h_report.failed h_alike
      · exact h_report
    · rw [if_neg h_pipeline, if_neg h_pipeline]
      exact ⟨_, _, _, _, s', t', rfl, rfl, .error h_alike, h_report, h_rel'⟩

theorem matches_run? (fuel : Nat) {s : Source × ω} {t : Source × τ}
    (h_rel : Pairs (Source.Alike L) R s t) {outcome : Except Failure Import.Report}
    {state : Source × ω}
    (h_run : (importTo env dataFile scratchDir scratchFileName).run? fuel s =
      some (outcome, state)) :
    ∃ outcome' state', (importTo other dataFile scratchDir scratchFileName).run? fuel t =
        some (outcome', state') ∧
      Agree L.failure (Import.Report.Alike L) outcome outcome' ∧
      Pairs (Source.Alike L) R state state' := by
  unfold Import.run? at h_run ⊢
  obtain ⟨⟨phases, report, s₁⟩, h_drive, h_rest⟩ := Option.map_eq_some_iff.mp h_run
  obtain ⟨phases', ⟨report', t₁⟩, h_drive', h_phases, h_report, h_rel₁⟩ :=
    matches_drive? h_env dataFile scratchDir scratchFileName fuel .info
      (t := ({}, t)) ⟨⟨rfl, rfl, .none⟩, h_rel⟩ h_drive
  obtain ⟨settled, settled', report₂, report₂', s₂, t₂, h_s₂, h_t₂, h_settled, h_report₂, h_rel₂⟩ :=
    matches_settle h_env dataFile scratchDir scratchFileName h_phases h_report h_rel₁
  obtain ⟨closing, closing', report₃, report₃', s₃, t₃, h_s₃, h_t₃, h_closing, h_report₃, h_rel₃⟩ :=
    matches_conclude h_env dataFile scratchDir scratchFileName h_report₂ h_rel₂
  rw [h_drive', Option.map_some]
  dsimp only at h_rest ⊢
  rw [h_s₂] at h_rest
  rw [h_t₂]
  dsimp only at h_rest ⊢
  rw [h_s₃] at h_rest
  rw [h_t₃]
  cases h_closing with
  | error h_alike =>
    cases h_rest
    exact ⟨_, _, rfl, .error h_alike, h_rel₃⟩
  | ok =>
    cases h_settled with
    | error h_alike =>
      cases h_rest
      exact ⟨_, _, rfl, .error h_alike, h_rel₃⟩
    | ok =>
      cases h_rest
      exact ⟨_, _, rfl, .ok h_report₃, h_rel₃⟩

/-- Fetching sources that are alike comes to the same with collaborators who match. -/
theorem matches_fetch {source source' : Source} (h_source : source.Alike L source') :
    (source.fetch env dataFile scratchDir scratchFileName).Matches L (Import.Report.Alike L) R
      (source'.fetch other dataFile scratchDir scratchFileName) := by
  intro s t h_rel
  have h_run := Option.eq_some_of_isSome
    (isSome_run? env dataFile scratchDir scratchFileName (source, s))
  obtain ⟨outcome', state', h_run', h_agree, h_rel'⟩ :=
    matches_run? h_env dataFile scratchDir scratchFileName 4 (t := (source', t))
      ⟨h_source, h_rel⟩ h_run
  have h_get := Option.get_of_eq_some
    (isSome_run? other dataFile scratchDir scratchFileName (source', t)) h_run'
  unfold fetch
  simp only [after_of, h_get]
  exact ⟨h_agree, h_rel'.2⟩

end

end ImageIntake
