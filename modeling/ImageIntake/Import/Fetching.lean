/-
  ImageIntake.Import.Fetching

  The import of a source.  Every operation of a source names one phase only, so
  the import is over after four of them.
-/

import ImageIntake.Source.Driven
import ImageIntake.Source.Opening

namespace ImageIntake

namespace Action

variable {ω σ α β : Type}

/-- Whether an action answers nothing but one value. -/
def Answers (a : Action ω α) (x : α) : Prop := ∀ s y, (a.after s).1 = .ok y → y = x

theorem answers_pure (x : α) : (pure x : Action ω α).Answers x := by
  intro s y h
  simpa using h.symm

theorem answers_throw (f : Failure) (x : α) : (throw f : Action ω α).Answers x := by
  intro s y h
  simp at h

theorem answers_bind {a : Action ω β} {f : β → Action ω α} {x : α}
    (h : ∀ b, (f b).Answers x) : (a >>= f).Answers x := by
  intro s y hy
  rw [after_bind] at hy
  split at hy
  · exact h _ _ _ hy
  · simp at hy

theorem answers_second {a : Action ω α} {x : α} (h : a.Answers x) :
    (Action.second (σ := σ) a).Answers x := by
  intro s y hy
  exact h s.2 y hy

end Action

namespace Source

open ImageIntake.Action

variable {ω : Type} (env : Collaborators ω)

theorem answers_info : (info env).Answers .transferDataFile := by
  unfold info
  refine answers_bind fun _ => ?_
  dsimp only
  split
  all_goals
    iterate 5 refine answers_bind fun _ => ?_
    exact answers_pure _

theorem answers_convertTo (operation dest : String) :
    (convertTo env operation dest).Answers .resize := by
  unfold convertTo
  refine answers_bind fun _ => answers_bind fun _ => answers_bind fun outcome => ?_
  rcases outcome with f | _
  · exact answers_throw _ _
  · exact answers_pure _

theorem answers_transfer (path : String) : (transfer env path).Answers .resize := by
  unfold transfer
  refine answers_bind fun size => ?_
  dsimp only
  split
  · exact answers_bind fun _ => answers_bind fun _ => answers_convertTo env _ _
  · exact answers_bind fun _ => answers_convertTo env _ _

/-! ## The import of a source -/

/-- The phase after another in the import of a source. -/
def nextPhase : Phase → Phase
  | .info => .transferDataFile
  | .transferDataFile => .resize
  | .resize => .convert
  | _ => .done

/-- How many phases are still to come after one, at most. -/
def phasesLeft : Phase → Nat
  | .info => 4
  | .transferDataFile => 3
  | .resize => 2
  | .convert | .error => 1
  | .done => 0

section

variable {env} {i : Import (Source × ω)} (h_source : i.source = driven env)
include h_source

/-- Whatever is done with the image afterwards, a source decides which phase is next. -/
theorem answers_step (phase : Phase) : (i.step phase).Answers (nextPhase phase) := by
  unfold Import.step
  refine answers_bind fun _ => ?_
  cases phase with
  | info =>
    unfold Import.advance
    rw [h_source]
    exact answers_second (answers_info env)
  | transferDataFile =>
    refine answers_bind fun _ => answers_second ?_
    unfold Import.transfer
    rw [h_source]
    split
    · exact answers_transfer env _
    · exact answers_convertTo env _ _
  | resize =>
    refine answers_bind fun _ => answers_second (answers_bind fun _ => ?_)
    rw [h_source]
    exact answers_pure _
  | convert =>
    exact answers_bind fun _ => answers_second
      (answers_bind fun _ => answers_bind fun _ => answers_pure _)
  | error => exact answers_throw _ _
  | done => exact answers_throw _ _

theorem isSome_drive? : ∀ (fuel : Nat) (phase : Phase) (s : Import.Report × Source × ω),
    phasesLeft phase ≤ fuel → (i.drive? fuel phase s).isSome := by
  intro fuel
  induction fuel with
  | zero =>
    intro phase s h
    cases phase <;> simp [phasesLeft] at h
    simp [Import.drive?]
  | succ fuel ih =>
    intro phase s h
    rw [Import.drive?]
    split
    · rfl
    · split
      · rfl
      · rename_i next after eq
        have := answers_step h_source phase s next (by rw [eq])
        subst this
        exact ih _ _ (by cases phase <;> simp_all [phasesLeft, nextPhase])

end

theorem isSome_run? (dataFile : String) (scratchDir : Option String) (scratchFileName : String)
    (s : Source × ω) : ((importTo env dataFile scratchDir scratchFileName).run? 4 s).isSome := by
  have h_drive := isSome_drive? (i := importTo env dataFile scratchDir scratchFileName) rfl 4 .info
    ({}, s) (by decide)
  simp [Import.run?, h_drive]

/-- Imports the image of a source into a file, by way of scratch space where there is a directory
for it; answers the report. -/
def fetch (env : Collaborators ω) (source : Source) (dataFile : String) (scratchDir : Option String)
    (scratchFileName : String) : Action ω Import.Report :=
  .of fun s =>
    let (outcome, _, s) := ((importTo env dataFile scratchDir scratchFileName).run? 4 (source, s)).get
      (isSome_run? env dataFile scratchDir scratchFileName (source, s))
    (outcome, s)

end Source

end ImageIntake
