/-
  ImageIntake.Proofs.Import.Conduct

  What an import of a source makes of the conduct of its collaborators.  Until
  the converter is asked something holds of the surroundings, once it succeeded
  something else; if every collaborator keeps to that (`Conduct`), so does the
  whole import: one step from phase to phase does (`settled_step`), and by
  induction all of them (`settled_drive?`).
-/

import ImageIntake.Import.Fetching
import ImageIntake.Proofs.Source.Keeping

namespace ImageIntake

open ImageIntake.Action

variable {ω : Type}

/-! ## Conduct -/

/-- The kinds of failure that come before anything is converted. -/
def earlyKinds : List FailureKind :=
  [.unsupportedContentType, .classificationFailed, .invalidPath, .phaseOrder]

/-- Whether a failure is of a kind that comes before anything is converted. -/
def Failure.IsEarly (f : Failure) : Prop := ∃ kind ∈ earlyKinds, f.kind? = some kind

/-- What holds once something came to an outcome: after a success the one, after an early failure
the other. -/
def Settled {α : Type} (Before After : ω → Prop) (outcome : Except Failure α) (s : ω) : Prop :=
  match outcome with
  | .ok _ => After s
  | .error f => f.IsEarly → Before s

theorem settled_of_before {α : Type} {Before : ω → Prop} {s : ω} (h : Before s)
    (outcome : Except Failure α) : Settled Before Before outcome s := by
  cases outcome with
  | ok => exact h
  | error f => exact fun _ => h

/-- Collaborators who keep to what holds before a conversion, and after one. -/
structure Collaborators.Conduct (Before After : ω → Prop) (env : Collaborators ω) : Prop where
  record : ∀ r s, Before s → Before (env.record r s)
  record_after : ∀ r s, After s → After (env.record r s)
  classify : ∀ n s, Before s → Before ((env.classify n).after s).2
  usableSpace : ∀ path s, Before s → Before ((env.usableSpace path).after s).2
  closeReaders : ∀ s, Before s → Before (env.closeReaders.after s).2
  closeReaders_after : ∀ s, After s → After (env.closeReaders.after s).2
  closeStream : ∀ s, Before s → Before (env.closeStream.after s).2
  closeStream_after : ∀ s, After s → After (env.closeStream.after s).2
  cancel : ∀ s, Before s → Before (env.cancel.after s).2
  cancel_after : ∀ s, After s → After (env.cancel.after s).2
  uncancelled : ∀ s f, (env.cancel.after s).1 = .error f → ¬f.IsEarly
  converted : ∀ request s s', Before s → (env.convert request).after s = (.ok (), s') → After s'
  unconverted : ∀ request s f, ((env.convert request).after s).1 = .error f → ¬f.IsEarly

theorem Failure.not_isEarly_of_none {f : Failure} (h : f.kind? = none) : ¬f.IsEarly := by
  rintro ⟨kind, -, h_kind⟩
  rw [h] at h_kind
  cases h_kind

theorem Failure.not_isEarly_of_some {f : Failure} {kind : FailureKind} (h : f.kind? = some kind)
    (h_kind : kind ∉ earlyKinds) : ¬f.IsEarly := by
  rintro ⟨other, h_mem, h_other⟩
  rw [h] at h_other
  cases h_other
  exact h_kind h_mem

namespace Source

/-! ## Operations of a source -/

section

variable {Before After : ω → Prop} {env : Collaborators ω} (h : env.Conduct Before After)
include h

omit h in
theorem not_isEarly_notConverted {f : Failure} (h_early : ¬f.IsEarly) :
    ¬(notConverted f).IsEarly := by
  unfold notConverted
  split
  · exact h_early
  · exact Failure.not_isEarly_of_some rfl (by decide)

theorem settled_convertTo (source : Source) {s : ω} (operation dest : String)
    (h_before : Before s) :
    Settled Before After ((convertTo env operation dest).after (source, s)).1
      ((convertTo env operation dest).after (source, s)).2.2 := by
  rw [after_convertTo]
  cases source.requestFor operation dest with
  | error f => exact fun _ => h_before
  | ok request =>
    dsimp only
    rcases h_convert : (env.convert request).after s with ⟨f | _, t⟩
    · -- A failure to convert is no early one, whatever had been done by then.
      have h_late := not_isEarly_notConverted (h.unconverted request s f (by rw [h_convert]))
      exact fun h_early => absurd h_early h_late
    · exact h.converted request s t h_before h_convert

theorem settled_transfer (source : Source) {s : ω} (path : String) (h_before : Before s) :
    Settled Before After ((transfer env path).after (source, s)).1
      ((transfer env path).after (source, s)).2.2 := by
  have h_probed := h.usableSpace path s h_before
  rw [after_transfer]
  rcases h_space : (env.usableSpace path).after s with ⟨f | size, t⟩
  · rw [h_space] at h_probed
    exact fun _ => h_probed
  · rw [h_space] at h_probed
    dsimp only
    split
    · exact fun _ => h_probed
    · exact settled_convertTo h source _ _ h_probed

theorem not_isEarly_cancel {source : Source} {s : ω} {f : Failure}
    (h_error : ((cancel env).after (source, s)).1 = .error f) : ¬f.IsEarly := by
  rw [after_cancel] at h_error
  split at h_error
  · cases h_error
  · split at h_error
    · cases h_error
    · rename_i h_cancel
      cases h_error
      exact h.uncancelled s f (congrArg Prod.fst h_cancel)

theorem not_isEarly_close {source : Source} {s : ω} {f : Failure}
    (h_error : ((close env).after (source, s)).1 = .error f) : ¬f.IsEarly := by
  rw [after_close] at h_error
  rcases h_release : (release env).after (source, s) with ⟨g | _, source', t⟩
  all_goals
    rw [h_release] at h_error
    dsimp only at h_error
    have h_cancel (g : Failure) (h_error : ((cancel env).after (source', t)).1 = .error g) :
        ¬g.IsEarly := not_isEarly_cancel h h_error
    rcases h_after : (cancel env).after (source', t) with ⟨g' | _, state⟩
    all_goals rw [h_after] at h_error h_cancel
  · split at h_error
    · rename_i h_ends
      cases h_error
      exact Failure.not_isEarly_of_none (Failure.kind?_of_endsProgram h_ends)
    · cases h_error
      exact h_cancel _ rfl
  · split at h_error
    · rename_i h_ends
      cases h_error
      exact Failure.not_isEarly_of_none (Failure.kind?_of_endsProgram h_ends)
    · cases h_error
      exact Failure.not_isEarly_of_some rfl (by decide)
  · cases h_error
    exact h_cancel _ rfl
  · cases h_error

end

end Source

/-! ## From phase to phase -/

section

open Source

variable {Before After : ω → Prop} {env : Collaborators ω} (h : env.Conduct Before After)
  (dataFile : String) (scratchDir : Option String) (scratchFileName : String)

/-- What holds of the surroundings when a phase is entered. -/
def Stage (Before After : ω → Prop) : Phase → ω → Prop
  | .info | .transferDataFile => Before
  | .resize | .convert | .done => After
  | .error => fun _ => True

theorem Import.after_step {σ : Type} (i : Import σ) (phase : Phase) (report : Report) (s : σ) :
    (i.step phase).after (report, s) =
      (i.advance phase).after (report.visit phase, i.record (entering phase) s) := rfl

theorem Import.after_info {σ : Type} (i : Import σ) (report : Report) (s : σ) :
    (i.advance .info).after (report, s) =
      ((i.source.info.after s).1, report, (i.source.info.after s).2) := rfl

theorem Import.after_transferDataFile {σ : Type} (i : Import σ) (report : Report) (s : σ) :
    (i.advance .transferDataFile).after (report, s) =
      ((i.transfer.after s).1, { report with imagePath := some i.imagePath },
        (i.transfer.after s).2) := rfl

include h in
/-- One step from phase to phase keeps to the stages. -/
theorem settled_step (phase : Phase) (report : Import.Report) (source : Source) {s : ω}
    (h_stage : Stage Before After phase s) :
    Settled Before (Stage Before After (nextPhase phase))
      (((importTo env dataFile scratchDir scratchFileName).step phase).after
        (report, source, s)).1
      (((importTo env dataFile scratchDir scratchFileName).step phase).after
        (report, source, s)).2.2.2 := by
  rw [Import.after_step]
  cases phase with
  | info =>
    rw [Import.after_info]
    exact settled_of_before (info_keeps source h.record h.classify (h.record _ s h_stage)) _
  | transferDataFile =>
    rw [Import.after_transferDataFile]
    have h_before : Before (env.record (Import.entering .transferDataFile) s) :=
      h.record _ s h_stage
    unfold Import.transfer
    split
    · exact settled_transfer h source _ h_before
    · exact settled_convertTo h source _ _ h_before
  | resize => exact h.record_after _ _ (h.record_after _ s h_stage)
  | convert => exact h.record_after _ _ (h.record_after _ s h_stage)
  | error => exact fun h_early => absurd h_early (Failure.not_isEarly_of_none rfl)
  | done => exact fun h_early => absurd h_early (Failure.not_isEarly_of_none rfl)

variable (env) in
/-- No step makes out a failure in the report. -/
theorem failure_step (phase : Phase) (state : Import.Report × Source × ω) :
    (((importTo env dataFile scratchDir scratchFileName).step phase).after state).2.1.failure =
      state.1.failure := by
  cases phase <;> rfl

include h in
/-- The phases keep to the stages until the last. -/
theorem settled_drive? : ∀ (fuel : Nat) (phase : Phase) (report report' : Import.Report)
    (source source' : Source) (s s' : ω) (outcome : Except Failure Unit),
    Stage Before After phase s →
    (importTo env dataFile scratchDir scratchFileName).drive? fuel phase (report, source, s) =
      some (outcome, report', source', s') →
    Settled Before After outcome s' ∧ report'.failure = report.failure := by
  intro fuel
  induction fuel with
  | zero =>
    intro phase report report' source source' s s' outcome h_stage h_drive
    rw [Import.drive?] at h_drive
    split at h_drive
    · rename_i h_done
      subst h_done
      cases h_drive
      exact ⟨h_stage, rfl⟩
    · cases h_drive
  | succ fuel ih =>
    intro phase report report' source source' s s' outcome h_stage h_drive
    rw [Import.drive?] at h_drive
    split at h_drive
    · rename_i h_done
      subst h_done
      cases h_drive
      exact ⟨h_stage, rfl⟩
    · have h_step := settled_step h dataFile scratchDir scratchFileName phase report source h_stage
      have h_failure := failure_step env dataFile scratchDir scratchFileName phase
        (report, source, s)
      split at h_drive
      · rename_i f state h_after
        rw [h_after] at h_step h_failure
        cases h_drive
        exact ⟨h_step, h_failure⟩
      · -- The step named the phase that the stages go on with.
        rename_i next state h_after
        have h_next := answers_step (i := importTo env dataFile scratchDir scratchFileName) rfl phase
          (report, source, s) next (by rw [h_after])
        rw [h_after] at h_step h_failure
        subst h_next
        obtain ⟨h_settled, h_same⟩ := ih _ _ _ _ _ _ _ _ h_step h_drive
        exact ⟨h_settled, h_same.trans h_failure⟩

/-! ## The whole import -/

/-- The failure an import ends with: the one that leaves it, or the one it reports. -/
def Import.ending (outcome : Except Failure Report) : Option Failure :=
  match outcome with
  | .ok report => report.failure
  | .error f => some f

theorem Failure.not_isEarly_of_foreign {f : Failure} (h : f.isPipeline = false) : ¬f.IsEarly := by
  refine not_isEarly_of_none ?_
  cases f with
  | pipeline => cases h
  | process => rfl
  | outside => rfl

/-- What an import comes to, in what holds of its surroundings. -/
def Concluded (Before After : ω → Prop) (outcome : Except Failure Import.Report) (s : ω) : Prop :=
  (Import.ending outcome = none → After s) ∧
    ∀ f, Import.ending outcome = some f → f.IsEarly → Before s

theorem concluded_of_failure {s : ω} {outcome : Except Failure Import.Report} {f : Failure}
    (h_ending : Import.ending outcome = some f) (h_before : f.IsEarly → Before s) :
    Concluded Before After outcome s := by
  refine ⟨fun h_none => ?_, fun g h_some h_early => ?_⟩
  · rw [h_ending] at h_none
    cases h_none
  · rw [h_ending] at h_some
    cases h_some
    exact h_before h_early

/-- What holds when an import is to be closed: a failure that is kept for later is not early, and
one in the report is as it was. -/
def Closing (Before After : ω → Prop) (outcome : Except Failure Unit) (report : Import.Report)
    (s : ω) : Prop :=
  match outcome with
  | .error f => ¬f.IsEarly
  | .ok () => Concluded Before After (.ok report) s

include h in
theorem closing_settle {outcome outcome' : Except Failure Unit} {report report' : Import.Report}
    {source source' : Source} {s s' : ω} (h_settled : Settled Before After outcome s)
    (h_report : report.failure = none)
    (h_eq : (importTo env dataFile scratchDir scratchFileName).settle outcome report (source, s) =
      (outcome', report', source', s')) : Closing Before After outcome' report' s' := by
  unfold Import.settle at h_eq
  cases outcome with
  | ok =>
    cases h_eq
    refine ⟨fun _ => h_settled, fun f h_ending => ?_⟩
    cases h_report.symm.trans h_ending
  | error f =>
    dsimp only at h_eq
    cases h_pipeline : f.isPipeline with
    | true =>
      rw [if_pos h_pipeline] at h_eq
      cases h_eq
      exact concluded_of_failure rfl fun h_early => h.record _ s (h_settled h_early)
    | false =>
      rw [if_neg (by simp [h_pipeline])] at h_eq
      cases h_eq
      exact Failure.not_isEarly_of_foreign h_pipeline

/-- The failure that closing adds to a report, if the report has none. -/
theorem ending_closed (g : Failure) (report : Import.Report) :
    Import.ending (.ok (if report.failure.isNone then report.failed g else report)) =
      some (report.failure.getD g) := by
  cases h_failure : report.failure with
  | none => rfl
  | some f => simpa [Import.ending] using h_failure

/-- The outcome of an import that was closed. -/
theorem concluded_released {outcome : Except Failure Unit} {report : Import.Report} {s s' : ω}
    (h_closing : Closing Before After outcome report s) (h_before : Before s → Before s')
    (h_after : After s → After s') :
    Concluded Before After
      (match outcome with
      | .error f => .error f
      | .ok () => .ok report) s' := by
  cases outcome with
  | error f => exact concluded_of_failure rfl fun h_early => absurd h_early h_closing
  | ok =>
    obtain ⟨h_converted, h_waiting⟩ := h_closing
    exact ⟨fun h_none => h_after (h_converted h_none),
      fun f h_ending h_early => h_before (h_waiting f h_ending h_early)⟩

/-- The outcome of an import that could not be closed, which is no early failure. -/
theorem concluded_unreleased {outcome : Except Failure Unit} {report : Import.Report} {g : Failure}
    {s s' : ω} (h_closing : Closing Before After outcome report s) (h_late : ¬g.IsEarly)
    (h_before : Before s → Before s') :
    Concluded Before After
      (match outcome with
      | .error f => .error f
      | .ok () => .ok (if report.failure.isNone then report.failed g else report)) s' := by
  cases outcome with
  | error f => exact concluded_of_failure rfl fun h_early => absurd h_early h_closing
  | ok =>
    refine concluded_of_failure (ending_closed g report) fun h_early => ?_
    cases h_failure : report.failure with
    | none =>
      rw [h_failure] at h_early
      exact absurd h_early h_late
    | some f =>
      rw [h_failure] at h_early
      exact h_before (h_closing.2 f h_failure h_early)

include h in
theorem concluded_conclude {outcome closing : Except Failure Unit} {report report' : Import.Report}
    {source source' : Source} {s s' : ω} (h_closing : Closing Before After outcome report s)
    (h_eq : (importTo env dataFile scratchDir scratchFileName).conclude report (source, s) =
      (closing, report', source', s')) :
    Concluded Before After
      (match closing, outcome with
      | .error f, _ => .error f
      | .ok (), .error f => .error f
      | .ok (), .ok () => .ok report') s' := by
  have h_late : ∀ g, ((close env).after (source, s)).1 = .error g → ¬g.IsEarly :=
    fun _ => not_isEarly_close h
  have h_before : Before s → Before ((close env).after (source, s)).2.2 :=
    close_keeps source h.closeReaders h.closeStream h.cancel
  have h_after : After s → After ((close env).after (source, s)).2.2 :=
    close_keeps source h.closeReaders_after h.closeStream_after h.cancel_after
  unfold Import.conclude at h_eq
  rw [show (importTo env dataFile scratchDir scratchFileName).source.close = close env from rfl]
    at h_eq
  rcases h_close : (close env).after (source, s) with ⟨g | _, source₂, s₂⟩
  · rw [h_close] at h_eq h_late h_before
    dsimp only at h_eq
    -- A failure of the pipeline is put on record, any other leaves the import.
    cases h_pipeline : g.isPipeline with
    | true =>
      rw [if_pos h_pipeline] at h_eq
      cases h_eq
      have h_concluded := concluded_unreleased h_closing (h_late g rfl)
        fun h_now => h.record (Import.releaseFailed g) s₂ (h_before h_now)
      cases outcome <;> exact h_concluded
    | false =>
      rw [if_neg (by simp [h_pipeline])] at h_eq
      cases h_eq
      exact concluded_of_failure rfl fun h_early => absurd h_early (h_late g rfl)
  · rw [h_close] at h_eq h_before h_after
    cases h_eq
    have h_concluded := concluded_released h_closing h_before h_after
    cases outcome <;> exact h_concluded

include h in
/-- An import that ends without a failure has converted, and one that ends with an early failure
has not begun to. -/
theorem concluded_run? {fuel : Nat} {source : Source} {s : ω}
    {outcome : Except Failure Import.Report} {state : Source × ω} (h_before : Before s)
    (h_run : (importTo env dataFile scratchDir scratchFileName).run? fuel (source, s) =
      some (outcome, state)) : Concluded Before After outcome state.2 := by
  unfold Import.run? at h_run
  obtain ⟨⟨phases, report, source₁, s₁⟩, h_drive, h_rest⟩ := Option.map_eq_some_iff.mp h_run
  obtain ⟨h_settled, h_failure⟩ := settled_drive? h dataFile scratchDir scratchFileName fuel .info
    {} report source source₁ s s₁ phases h_before h_drive
  dsimp only at h_rest
  rcases h_settle : (importTo env dataFile scratchDir scratchFileName).settle phases report
    (source₁, s₁) with ⟨outcome₂, report₂, source₂, s₂⟩
  rcases h_conclude : (importTo env dataFile scratchDir scratchFileName).conclude report₂
    (source₂, s₂) with ⟨closing, report₃, source₃, s₃⟩
  have h_closing :=
    closing_settle h dataFile scratchDir scratchFileName h_settled h_failure h_settle
  have h_concluded := concluded_conclude h dataFile scratchDir scratchFileName h_closing h_conclude
  rw [h_settle] at h_rest
  dsimp only at h_rest
  rw [h_conclude] at h_rest
  cases closing <;> cases outcome₂ <;> cases h_rest <;> exact h_concluded

include h in
/-- Fetching a source concludes as its import does. -/
theorem concluded_fetch (source : Source) {s : ω} (h_before : Before s) :
    Concluded Before After
      ((source.fetch env dataFile scratchDir scratchFileName).after s).1
      ((source.fetch env dataFile scratchDir scratchFileName).after s).2 := by
  have h_run := Option.eq_some_of_isSome
    (isSome_run? env dataFile scratchDir scratchFileName (source, s))
  exact concluded_run? h dataFile scratchDir scratchFileName h_before h_run

end

end ImageIntake
