/-
  ImageIntake.Proofs.Job.Raising

  What leaves a run as a failure.  A run that was cancelled before it started, a process
  that the system does not start and a process that ends badly are reported as a failure of
  the process; a line that is not taken ends the run with what came of it.  A start that
  fails in any other way is not reported, nor is a timer that cannot be started, nor a kill
  that is refused when the run itself orders it: these failures leave the run as they are
  (`Escapes`, `run_raises_iff`).
-/

import ImageIntake.Proofs.Job.Telling

namespace ImageIntake

/-- Whether a failure is that of a process. -/
def Failure.IsProcess (f : Failure) : Prop :=
  ∃ message report cause, f = .process message report cause

namespace Job

open ImageIntake.Cancellation

variable {σ : Type}

/-! ## Lines that are not taken -/

/-- What ends the telling is what came of the last line. -/
theorem Telling.outcome_eq_error_iff {lines : List String} {outcome : Except Failure Unit}
    {told : List Told} (h : Telling lines outcome told) (f : Failure) :
    outcome = .error f ↔ ∃ line, told.getLast? = some (line, .error f) := by
  induction h with
  | done => exact iff_of_false nofun fun ⟨_, h_last⟩ => nomatch h_last
  | @taken line rest outcome told h_rest ih =>
    rw [ih]
    -- The last line told is one of the rest, if any of them was told.
    cases told with
    | nil => simp
    | cons t told => simp only [List.getLast?_cons_cons]
  | refused line rest g =>
    rw [List.getLast?_singleton]
    constructor
    · rintro ⟨rfl⟩
      exact ⟨line, rfl⟩
    · rintro ⟨_, ⟨rfl⟩⟩
      rfl

/-! ## Failures that are reported -/

/-- A process that ended badly is reported as one. -/
theorem Running.isProcess_of_outcome {program : String} {command : List String} {r : Running σ}
    {f : Failure} (h : r.outcome program command = .error f) : f.IsProcess := by
  unfold outcome at h
  split at h
  · cases h
    exact ⟨_, _, _, rfl⟩
  · dsimp only at h
    split at h
    · cases h
    · cases h
      exact ⟨_, _, _, rfl⟩

/-! ## Orders of the run itself -/

namespace Running

/-- Registering a release fails only where the token was cancelled meanwhile, and the process still
runs and may not be killed. -/
theorem register_eq_error_iff (obs : Observer σ) (r : Running σ) (f : Failure) :
    (r.register obs).1 = .error f ↔ obs.cancelled r.around = true ∧ r.refusal? = some f := by
  unfold register Observer.cancelled refusal?
  cases obs.token r.around with
  | none => exact iff_of_false nofun fun h => nomatch h.1
  | some token =>
    unfold Token.register kill
    cases h_status : r.status with
    | some status =>
      refine iff_of_false ?_ fun h => nomatch h.2
      split <;> simp
    | none =>
      dsimp only
      cases h_cancelled : token.cancelled with
      | false => simp [h_cancelled]
      | true =>
        cases r.launcher.killReply.failure? <;> simp [h_cancelled]

end Running

/-! ## What leaves a run -/

/-- The failures that leave a run as they are, given what one who listens in was told. -/
inductive Escapes (obs : Observer σ) (limits : Limits) (command : List String) (launcher : Launcher)
    (around : σ) (told : List Told) (f : Failure) : Prop where
  /-- The process could not be started, and the system did not refuse. -/
  | launch (h_launch : launcher.launchFailure = some f) (h_foreign : f.isSystem = false)
  /-- The timer could not be started; the process was. -/
  | timer (h_launch : launcher.launchFailure = none) (h_timed : limits.wall.isSome = true)
      (h_timer : launcher.timerFailure = some f)
  /-- The token was cancelled before it held the release, and the process may not be killed. -/
  | register (h_starts : launcher.Starts limits)
      (h_cancelled : obs.cancelled
        (Running.begun obs limits command launcher (obs.overtake launcher around)).around = true)
      (h_refused : (Running.begun obs limits command launcher
        (obs.overtake launcher around)).refusal? = some f)
  /-- The last line was not taken. -/
  | line {line : String} (h_last : told.getLast? = some (line, .error f))
      (h_clear : (Running.read obs limits command launcher around).2.refusal? = none)
  /-- The last line was not taken, and the process still runs and may not be killed. -/
  | clear {line : String} {g : Failure} (h_last : told.getLast? = some (line, .error g))
      (h_refused : (Running.read obs limits command launcher around).2.refusal? = some f)

section

variable {obs : Observer σ} {limits : Limits} {program : String} {arguments : List String}
  {launcher : Launcher} {around : σ}

/-- Where nothing was told, no line was refused. -/
theorem Escapes.of_untold {command : List String} {f : Failure}
    (h : Escapes obs limits command launcher around [] f) :
    launcher.launchFailure = some f ∧ f.isSystem = false ∨
      launcher.launchFailure = none ∧ limits.wall.isSome = true ∧ launcher.timerFailure = some f ∨
      launcher.Starts limits ∧ (Running.setGoing obs limits command launcher around).1 = .error f := by
  cases h with
  | launch h_launch h_foreign => exact .inl ⟨h_launch, h_foreign⟩
  | timer h_launch h_timed h_timer => exact .inr (.inl ⟨h_launch, h_timed, h_timer⟩)
  | register h_starts h_cancelled h_refused =>
    exact .inr (.inr ⟨h_starts, (Running.register_eq_error_iff ..).mpr ⟨h_cancelled, h_refused⟩⟩)
  | line h_last => cases h_last
  | clear h_last => cases h_last

/-- Where no process could be started, nothing was; and a line is told only after a start. -/
theorem run_unstarted_reported (h : obs.cancelled around = true ∨
      ∃ f, launcher.launchFailure = some f ∧ f.isSystem = true) :
    ∃ message cause, (run obs limits program arguments launcher around).1 =
        .error (.process message ⟨program :: arguments, none, []⟩ cause) ∧
      (run obs limits program arguments launcher around).2 =
        (launcher, if obs.cancelled around then around else obs.overtake launcher around) := by
  cases h_cancelled : obs.cancelled around with
  | true =>
    rw [run_of_cancelled h_cancelled]
    exact ⟨_, _, rfl, rfl⟩
  | false =>
    obtain ⟨f, h_launch, h_system⟩ := h.resolve_left (by rw [h_cancelled]; decide)
    rw [run_of_launchFailure h_cancelled h_launch, h_system, if_pos rfl]
    exact ⟨_, _, rfl, rfl⟩

/-- Nobody is told of lines that nobody takes. -/
theorem told_of_silent (h_silent : obs.line = none) :
    (run obs.listening limits program arguments launcher (around, [])).2.2.2 = [] := by
  have h_keeps : obs.listening.Keeps (·.2 = []) := by
    have h_hand (line : String) (s : σ × List Told) : obs.listening.hand line s = (.ok (), s) := by
      unfold Observer.hand Observer.listening
      rw [h_silent]
      rfl
    refine ⟨fun _ h => h, fun line s h => ?_, fun s h => ?_, fun s h => ?_, fun s h => ?_⟩
    · rw [h_hand]
      exact h
    · rw [listening_onToken]
      exact h
    · rw [listening_onToken]
      exact h
    · rw [listening_cancel]
      exact h
  exact run_keeps h_keeps limits program arguments launcher rfl

/-- A line is told only to a run that was set going. -/
theorem told_of_not_going (h_cancelled : obs.cancelled around = false)
    (h_starts : launcher.Starts limits) {f : Failure}
    (h_going : (Running.setGoing obs limits (program :: arguments) launcher around).1 = .error f) :
    (run obs limits program arguments launcher around).1 = .error f ∧
      (run obs.listening limits program arguments launcher (around, [])).2.2.2 = [] := by
  have h_heard : obs.listening.cancelled (around, []) = false := h_cancelled
  rw [run_of_starts h_cancelled h_starts, run_of_starts h_heard h_starts, Running.setGoing_heard]
  generalize Running.setGoing obs limits (program :: arguments) launcher around = going at h_going
  obtain ⟨_, r⟩ := going
  cases h_going
  exact ⟨rfl, rfl⟩

/-- How reading ended decides what leaves a run that was set going. -/
theorem run_going_raises_iff (h_cancelled : obs.cancelled around = false)
    (h_starts : launcher.Starts limits)
    (h_going : (Running.setGoing obs limits (program :: arguments) launcher around).1 = .ok ())
    {f : Failure} (h_other : ¬f.IsProcess) :
    (run obs limits program arguments launcher around).1 = .error f ↔
      ∃ g, (Running.read obs limits (program :: arguments) launcher around).1 = .error g ∧
        (Running.read obs limits (program :: arguments) launcher around).2.refusal?.getD g = f := by
  rw [run_of_going h_cancelled h_starts h_going]
  cases h_end : (Running.read obs limits (program :: arguments) launcher around).1 with
  | error g =>
    rw [Running.conclude_of_error h_end, Except.error.injEq]
    exact ⟨fun h => ⟨g, rfl, h⟩, fun ⟨_, h_same, h⟩ => Except.error.inj h_same ▸ h⟩
  | ok =>
    -- All lines were taken, so that what is left is how the process ended.
    obtain ⟨finished, -, h_result⟩ := Running.conclude_of_ok h_end
    rw [h_result]
    refine iff_of_false (fun h => h_other (Running.isProcess_of_outcome h)) ?_
    rintro ⟨_, h_error, -⟩
    cases h_error

/-- The last line told is the one that ended the reading. -/
theorem read_eq_error_iff (h_cancelled : obs.cancelled around = false)
    (h_starts : launcher.Starts limits)
    (h_going : (Running.setGoing obs limits (program :: arguments) launcher around).1 = .ok ())
    (f : Failure) :
    (Running.read obs limits (program :: arguments) launcher around).1 = .error f ↔
      ∃ line, (run obs.listening limits program arguments launcher (around, [])).2.2.2.getLast? =
        some (line, .error f) := by
  cases h_line : obs.line with
  | none =>
    rw [told_of_silent h_line]
    refine iff_of_false (fun h => ?_) (by simp)
    obtain ⟨line, s, h_refused⟩ := Running.refuses_of_watch h
    unfold Observer.hand at h_refused
    rw [h_line] at h_refused
    cases h_refused
  | some take =>
    have h_calls : obs.line.isSome = true := by
      rw [h_line]
      rfl
    obtain ⟨told, h_heard, h_told, -⟩ := run_listening h_calls h_cancelled h_starts h_going
    rw [h_heard]
    exact h_told.outcome_eq_error_iff f

/-! ### The ways a run can take -/

theorem launchFailure_raises_iff (h_cancelled : obs.cancelled around = false) {g f : Failure}
    (h_launch : launcher.launchFailure = some g) (h_other : ¬f.IsProcess) :
    (run obs limits program arguments launcher around).1 = .error f ↔
      Escapes obs limits (program :: arguments) launcher around
        (run obs.listening limits program arguments launcher (around, [])).2.2.2 f := by
  have h_heard : obs.listening.cancelled (around, []) = false := h_cancelled
  rw [run_of_launchFailure h_cancelled h_launch, run_of_launchFailure h_heard h_launch,
    listening_overtake, Except.error.injEq]
  constructor
  · intro h_error
    cases h_system : g.isSystem with
    | true =>
      rw [h_system, if_pos rfl] at h_error
      exact absurd ⟨_, _, _, h_error.symm⟩ h_other
    | false =>
      rw [h_system, if_neg Bool.false_ne_true] at h_error
      exact .launch (h_launch.trans (congrArg some h_error)) (h_error ▸ h_system)
  · intro h_escapes
    rcases h_escapes.of_untold with ⟨h_same, h_foreign⟩ | ⟨h_none, -⟩ | ⟨h_starts, -⟩
    · obtain rfl : g = f := Option.some.inj (h_launch.symm.trans h_same)
      rw [h_foreign, if_neg Bool.false_ne_true]
    · cases h_launch.symm.trans h_none
    · cases h_launch.symm.trans h_starts.launched

theorem timerFailure_raises_iff (h_cancelled : obs.cancelled around = false)
    (h_launch : launcher.launchFailure = none) (h_timed : limits.wall.isSome = true) {g : Failure}
    (h_timer : launcher.timerFailure = some g) (f : Failure) :
    (run obs limits program arguments launcher around).1 = .error f ↔
      Escapes obs limits (program :: arguments) launcher around
        (run obs.listening limits program arguments launcher (around, [])).2.2.2 f := by
  have h_heard : obs.listening.cancelled (around, []) = false := h_cancelled
  have h_untold : (obs.listening.started (obs.overtake launcher around, ([] : List Told))).2 = [] :=
    rfl
  rw [run_of_timerFailure h_cancelled h_launch h_timed h_timer,
    run_of_timerFailure h_heard h_launch h_timed h_timer, listening_overtake, h_untold,
    Except.error.injEq]
  constructor
  · rintro rfl
    exact .timer h_launch h_timed h_timer
  · intro h_escapes
    rcases h_escapes.of_untold with ⟨h_some, -⟩ | ⟨-, -, h_same⟩ | ⟨h_starts, -⟩
    · cases h_launch.symm.trans h_some
    · exact Option.some.inj (h_timer.symm.trans h_same)
    · cases h_timer.symm.trans (h_starts.timed h_timed)

theorem starts_raises_iff (h_cancelled : obs.cancelled around = false)
    (h_starts : launcher.Starts limits) {f : Failure} (h_other : ¬f.IsProcess) :
    (run obs limits program arguments launcher around).1 = .error f ↔
      Escapes obs limits (program :: arguments) launcher around
        (run obs.listening limits program arguments launcher (around, [])).2.2.2 f := by
  cases h_going : (Running.setGoing obs limits (program :: arguments) launcher around).1 with
  | error g =>
    -- The token fired meanwhile, and the kill that registering ordered was refused: nothing was read.
    obtain ⟨h_result, h_untold⟩ := told_of_not_going h_cancelled h_starts h_going
    rw [h_result, h_untold, Except.error.injEq]
    constructor
    · rintro rfl
      obtain ⟨h_late, h_refused⟩ := (Running.register_eq_error_iff ..).mp h_going
      exact .register h_starts h_late h_refused
    · intro h_escapes
      rcases h_escapes.of_untold with ⟨h_some, -⟩ | ⟨-, h_timed, h_some⟩ | ⟨-, h_same⟩
      · cases h_starts.launched.symm.trans h_some
      · cases (h_starts.timed h_timed).symm.trans h_some
      · exact Except.error.inj (h_going.symm.trans h_same)
  | ok =>
    have h_last := read_eq_error_iff h_cancelled h_starts h_going
    rw [run_going_raises_iff h_cancelled h_starts h_going h_other]
    constructor
    · rintro ⟨g, h_error, h_failure⟩
      obtain ⟨line, h_told⟩ := (h_last g).mp h_error
      -- Behind a line that is not taken the process is killed, and a refusal of that kill counts instead.
      cases h_refusal : (Running.read obs limits (program :: arguments) launcher around).2.refusal? with
      | none =>
        obtain rfl : g = f := by
          rw [h_refusal] at h_failure
          exact h_failure
        exact .line h_told h_refusal
      | some k =>
        obtain rfl : k = f := by
          rw [h_refusal] at h_failure
          exact h_failure
        exact .clear h_told h_refusal
    · intro h_escapes
      cases h_escapes with
      | launch h_some => cases h_starts.launched.symm.trans h_some
      | timer _ h_timed h_some => cases (h_starts.timed h_timed).symm.trans h_some
      | register _ h_late h_refused =>
        cases h_going.symm.trans ((Running.register_eq_error_iff ..).mpr ⟨h_late, h_refused⟩)
      | line h_told h_clear =>
        exact ⟨f, (h_last f).mpr ⟨_, h_told⟩, by rw [h_clear]; rfl⟩
      | clear h_told h_refused =>
        exact ⟨_, (h_last _).mpr ⟨_, h_told⟩, by rw [h_refused]; rfl⟩

end

/-- Which failures leave a run.  Where no process could be started because the token was cancelled
before or because the system refused, it is the failure of a process that has no status and carries
the whole command, and nothing was started.  Any other failure than that of a process leaves a run
exactly if it is one of those that escape. -/
theorem run_raises_iff (obs : Observer σ) (limits : Limits) (program : String)
    (arguments : List String) (launcher : Launcher) (around : σ) :
    let result := run obs limits program arguments launcher around
    let told := (run obs.listening limits program arguments launcher (around, [])).2.2.2
    (obs.cancelled around = true ∨ (∃ f, launcher.launchFailure = some f ∧ f.isSystem = true) →
      ∃ message cause,
        result.1 = .error (.process message ⟨program :: arguments, none, []⟩ cause) ∧
        result.2 = (launcher, if obs.cancelled around then around else obs.overtake launcher around)) ∧
    ∀ f, ¬f.IsProcess →
      (result.1 = .error f ↔ obs.cancelled around = false ∧
        Escapes obs limits (program :: arguments) launcher around told f) := by
  intro result told
  refine ⟨run_unstarted_reported, fun f h_other => ?_⟩
  rcases run_ways obs limits launcher around with h_cancelled | ⟨h_cancelled, h_way⟩
  · have h_result : result = _ := run_of_cancelled h_cancelled
    rw [h_result, h_cancelled]
    refine iff_of_false (fun h => h_other ?_) (fun h => nomatch h.1)
    cases h
    exact ⟨_, _, _, rfl⟩
  refine Iff.trans ?_ (and_iff_right h_cancelled).symm
  rcases h_way with ⟨g, h_launch⟩ | ⟨h_launch, g, h_timed, h_timer⟩ | h_starts
  · exact launchFailure_raises_iff h_cancelled h_launch h_other
  · exact timerFailure_raises_iff h_cancelled h_launch h_timed h_timer f
  · exact starts_raises_iff h_cancelled h_starts h_other

/-- A program that is not there. -/
theorem missing_program_raises_process_failure :
    let launcher : Launcher :=
      { launchFailure := some (.outside (.numbered 2 "No such file or directory: 'c'")) }
    ∃ message cause, (run .idle {} "c" ["a b"] launcher ()).1 =
        .error (.process message ⟨["c", "a b"], none, []⟩ cause) ∧
      (run .idle {} "c" ["a b"] launcher ()).2 = (launcher, ()) := by
  intro launcher
  exact (run_raises_iff .idle {} "c" ["a b"] launcher ()).1 (.inr ⟨_, rfl, rfl⟩)

/-- An argument that holds a NUL: no process could be started, and the fault leaves the run as it
is. -/
theorem nul_raises_fault :
    let launcher : Launcher := { launchFailure := some (.outside .embeddedNul) }
    run .idle {} "c" ["a\x00b"] launcher () = (.error (.outside .embeddedNul), launcher, ()) ∧
    ¬(Failure.outside .embeddedNul).IsProcess ∧
    (run Observer.idle.listening {} "c" ["a\x00b"] launcher ((), [])).2.2.2 = [] := by
  refine ⟨rfl, ?_, rfl⟩
  rintro ⟨_, _, _, h⟩
  cases h

end Job

end ImageIntake
