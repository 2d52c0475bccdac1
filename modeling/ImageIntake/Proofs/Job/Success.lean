/-
  ImageIntake.Proofs.Job.Success

  What is behind a run that ends well.  Orders to kill are given for a reason,
  and reasons are never taken back (`Reasoned`); so a run without a reason in
  the end was left alone from its start on, and what was done with its process
  can be told to the last act.  A run that gets as far as reading has started its
  process and its timer, and has registered its release (`run_of_starts`).
-/

import ImageIntake.Job.Running

namespace ImageIntake.Job

open ImageIntake.Cancellation ImageIntake.Http

variable {σ : Type}

namespace Running

/-! ## What only grows -/

/-- A run as it may be later: neither a reason nor what was noted is taken back. -/
structure Grown (r r' : Running σ) : Prop where
  killReply : r'.launcher.killReply = r.launcher.killReply
  lingers : r'.launcher.lingers = r.launcher.lingers
  reasons : r.reasons <+: r'.reasons
  history : r.launcher.history <+: r'.launcher.history

/-- A run as it may be while it is read: nothing is done with its process unless there is a new
reason. -/
structure Reasoned (r r' : Running σ) : Prop extends Grown r r' where
  idle : r'.reasons = r.reasons → r'.launcher.history = r.launcher.history

section

variable {r now r' r₁ r₂ r₃ : Running σ}

theorem Grown.trans (h₁ : Grown r₁ r₂) (h₂ : Grown r₂ r₃) : Grown r₁ r₃ :=
  ⟨h₂.killReply.trans h₁.killReply, h₂.lingers.trans h₁.lingers, h₁.reasons.trans h₂.reasons,
    h₁.history.trans h₂.history⟩

theorem Grown.signals (h : Grown r r') : r.launcher.signals <+: r'.launcher.signals := by
  obtain ⟨acts, h_acts⟩ := h.history
  unfold Launcher.signals
  rw [← h_acts, List.filterMap_append]
  exact List.prefix_append _ _

theorem Reasoned.trans (h₁ : Reasoned r₁ r₂) (h₂ : Reasoned r₂ r₃) : Reasoned r₁ r₃ := by
  refine ⟨h₁.toGrown.trans h₂.toGrown, fun h_same => ?_⟩
  have h_back : r₂.reasons <+: r₁.reasons := h_same ▸ h₂.reasons
  have h_middle : r₂.reasons = r₁.reasons := h_back.eq_of_length_le h₁.reasons.length_le
  exact (h₂.idle (h_same.trans h_middle.symm)).trans (h₁.idle h_middle)

/-- Where only lines and the surroundings have changed, nothing has grown. -/
theorem Reasoned.of_same (h_reasons : r'.reasons = r.reasons)
    (h_reply : r'.launcher.killReply = r.launcher.killReply)
    (h_lingers : r'.launcher.lingers = r.launcher.lingers)
    (h_history : r'.launcher.history = r.launcher.history) : Reasoned r r' :=
  ⟨⟨h_reply, h_lingers, h_reasons ▸ List.prefix_rfl, h_history ▸ List.prefix_rfl⟩,
    fun _ => h_history⟩

theorem Reasoned.rfl : Reasoned r r := .of_same (Eq.refl _) (Eq.refl _) (Eq.refl _) (Eq.refl _)

/-- A run without reasons now had none before, and nothing was done with its process since. -/
theorem Reasoned.of_nil (h : Reasoned r r') (h_none : r'.reasons = []) :
    r.reasons = [] ∧ r'.launcher.history = r.launcher.history := by
  have h_before : r.reasons = [] := List.prefix_nil.mp (h_none ▸ h.reasons)
  exact ⟨h_before, h.idle (h_none.trans h_before.symm)⟩

theorem signal_reasons (r : Running σ) : r.signal.reasons = r.reasons := by
  unfold signal
  dsimp only
  split <;> rfl

theorem kill_snd (r : Running σ) : r.kill.2 = r.signal := by
  unfold kill
  split <;> rfl

theorem grown_signal (r : Running σ) : Grown r r.signal := by
  unfold signal
  dsimp only
  split <;> exact ⟨rfl, rfl, List.prefix_rfl, List.prefix_append _ _⟩

/-- An order to kill that has a reason of its own. -/
theorem reasoned_signal (r : Running σ) (reason : Reason) :
    Reasoned r { r with reasons := r.reasons ++ [reason] }.signal := by
  have h_grown := grown_signal { r with reasons := r.reasons ++ [reason] }
  refine ⟨⟨h_grown.killReply, h_grown.lingers, (List.prefix_append _ _).trans h_grown.reasons,
    h_grown.history⟩, fun h_same => ?_⟩
  rw [signal_reasons] at h_same
  simp at h_same

theorem reasoned_stop (r : Running σ) (reason : Reason) : Reasoned r (r.stop reason) := by
  unfold stop
  split
  · exact reasoned_signal r reason
  · exact .rfl

theorem reasoned_around (r : Running σ) (around : σ) : Reasoned r { r with around } :=
  .of_same rfl rfl rfl rfl

theorem reasoned_turn (obs : Observer σ) (timed : Bool) (r : Running σ) (turn : Turn) :
    Reasoned r (r.turn obs timed turn) := by
  cases turn with
  | exit => exact .of_same rfl rfl rfl rfl
  | timeout =>
    unfold Running.turn
    dsimp only
    split
    · exact reasoned_stop r .timedOut
    · exact .rfl
  | cancel => exact reasoned_around r _

theorem reasoned_register (obs : Observer σ) (r : Running σ) : Reasoned r (r.register obs).2 := by
  unfold register
  split
  · exact .rfl
  · rename_i token _
    dsimp only
    have h_set := reasoned_around r (obs.setToken (token.register .process).1 r.around)
    split
    · rw [kill_snd]
      exact h_set.trans (reasoned_signal _ .cancelled)
    · exact h_set

theorem reasoned_deliver (obs : Observer σ) (lines : List String) (r : Running σ) :
    Reasoned r (r.deliver obs lines).2 := by
  induction lines generalizing r with
  | nil => exact .rfl
  | cons line rest ih =>
    unfold deliver
    rcases obs.hand line r.around with ⟨outcome, around⟩
    have h_taken : Reasoned r { r with around, tail := keepLine r.tail line } :=
      .of_same rfl rfl rfl rfl
    cases outcome with
    | error f => exact h_taken
    | ok => exact h_taken.trans (ih _)

theorem reasoned_step (obs : Observer σ) (timed : Bool) (r : Running σ) (event : Event) :
    Reasoned r (r.step obs timed event).2 := by
  -- Only the timer and the token stop a run; what else happens gives no orders.
  cases event with
  | output bytes =>
    have h_read : Reasoned r { r with unfinished := (takeLines r.unfinished bytes).2 } :=
      .of_same rfl rfl rfl rfl
    exact h_read.trans (reasoned_deliver obs _ _)
  | exit => exact .of_same rfl rfl rfl rfl
  | timeout =>
    unfold step
    dsimp only
    split
    · exact reasoned_stop r .timedOut
    · exact .rfl
  | cancel =>
    have h_cancelled := reasoned_around r (obs.cancel r.around).2
    unfold step
    dsimp only
    split
    · exact h_cancelled.trans (reasoned_stop _ .cancelled)
    · exact h_cancelled

/-- Reading the output to its end leaves a process alone unless there is a reason. -/
theorem reasoned_watch (obs : Observer σ) (timed : Bool) (left : Nat) (r : Running σ) :
    Reasoned r (r.watch obs timed left).2 := by
  have h_last (r : Running σ) :
      Reasoned r ({ r with unfinished := [] }.deliver obs (lastLine r.unfinished)).2 := by
    have h_read : Reasoned r { r with unfinished := [] } := .of_same rfl rfl rfl rfl
    exact h_read.trans (reasoned_deliver obs _ _)
  induction left generalizing r with
  | zero => exact h_last r
  | succ left ih =>
    unfold watch
    cases r.launcher.events with
    | nil => exact h_last r
    | cons event rest =>
      have h_popped : Reasoned r { r with launcher := { r.launcher with events := rest } } :=
        .of_same rfl rfl rfl rfl
      have h_step := h_popped.trans (reasoned_step obs timed _ event)
      dsimp only
      split
      · rename_i h_after
        rw [h_after] at h_step
        exact h_step
      · rename_i r' h_after
        rw [h_after] at h_step
        exact h_step.trans (ih r')

theorem grown_killRunning (r : Running σ) : Grown r r.killRunning.2 := by
  unfold killRunning
  split
  · rw [kill_snd]
    exact grown_signal r
  · exact Reasoned.rfl.toGrown

theorem grown_finish (obs : Observer σ) (timed : Bool) (r : Running σ) :
    Grown r (r.finish obs timed).2 := by
  have h_letGo : Grown r (r.letGo obs timed) :=
    ⟨rfl, rfl, List.prefix_rfl, List.prefix_append _ _⟩
  have h_killed := h_letGo.trans (grown_killRunning _)
  unfold finish
  rcases h_after : (r.letGo obs timed).killRunning with ⟨f | _, r'⟩
  all_goals rw [h_after] at h_killed
  · exact h_killed
  · exact h_killed.trans ⟨rfl, rfl, List.prefix_rfl, List.prefix_append _ _⟩

/-- What ending a run fails with: its process still runs, and may not be killed. -/
def refusal? (r : Running σ) : Option Failure :=
  if r.status.isNone then r.launcher.killReply.failure? else none

theorem finish_fst (obs : Observer σ) (timed : Bool) (r : Running σ) :
    (r.finish obs timed).1 = r.refusal?.elim (.ok ()) .error := by
  have h_status : (r.letGo obs timed).status = r.status := rfl
  have h_reply : (r.letGo obs timed).launcher.killReply = r.launcher.killReply := rfl
  have h_killed : (r.letGo obs timed).killRunning.1 = r.refusal?.elim (.ok ()) .error := by
    unfold killRunning kill refusal?
    rw [h_status, h_reply]
    cases r.status.isNone with
    | true => cases r.launcher.killReply <;> rfl
    | false => rfl
  rw [← h_killed]
  unfold finish
  rcases (r.letGo obs timed).killRunning with ⟨f | _, r'⟩ <;> rfl

end

end Running

/-! ## Runs that end well -/

/-- What is done with the process of a run that ends well. -/
def goodActs (limits : Limits) (command : List String) : List Act :=
  launchActs limits command ++ (if limits.wall.isSome then [.timerStopped] else []) ++
    [.reaped 0, .outputClosed]

/-- A run that ends well started the one process. -/
theorem Launcher.launches_of_goodActs {launcher launcher' : Launcher} {limits : Limits}
    {command : List String}
    (h : launcher'.history = launcher.history ++ goodActs limits command) :
    launcher'.launches = launcher.launches ++ [command] := by
  unfold launches
  rw [h, List.filterMap_append]
  unfold goodActs launchActs Limits.resources
  cases limits.cpu <;> cases limits.addressSpace <;> cases limits.wall <;> rfl

/-- A run that ends well gave no order to kill. -/
theorem Launcher.signals_of_goodActs {launcher launcher' : Launcher} {limits : Limits}
    {command : List String}
    (h : launcher'.history = launcher.history ++ goodActs limits command) :
    launcher'.signals = launcher.signals := by
  unfold signals
  rw [h, List.filterMap_append]
  unfold goodActs launchActs Limits.resources
  cases limits.cpu <;> cases limits.addressSpace <;> cases limits.wall <;> simp

namespace Running

/-- A run that is set going, with how its release was registered. -/
def setGoing (obs : Observer σ) (limits : Limits) (command : List String) (launcher : Launcher)
    (around : σ) : Except Failure Unit × Running σ :=
  (begun obs limits command launcher (obs.overtake launcher around)).register obs

/-- A run whose output was read to the end, with how the reading ended. -/
def read (obs : Observer σ) (limits : Limits) (command : List String) (launcher : Launcher)
    (around : σ) : Except Failure Unit × Running σ :=
  let r := (setGoing obs limits command launcher around).2
  r.watch obs limits.wall.isSome r.launcher.events.length

/-- A run whose process has only been started. -/
def started (obs : Observer σ) (limits : Limits) (command : List String) (launcher : Launcher)
    (around : σ) : Running σ where
  launcher := launcher.note (launchActs limits command)
  around := obs.started around

/-- What every turn before the registration does to a run, all of them do. -/
theorem begun_induct {P : Running σ → Prop} {obs : Observer σ} {limits : Limits}
    (h_turn : ∀ r turn, P r → P (r.turn obs limits.wall.isSome turn)) {command : List String}
    {launcher : Launcher} {around : σ} (h : P (started obs limits command launcher around)) :
    P (begun obs limits command launcher around) := by
  have h_turns (turns : List Turn) (r : Running σ) (h : P r) :
      P (turns.foldl (turn obs limits.wall.isSome) r) := by
    induction turns generalizing r with
    | nil => exact h
    | cons turn rest ih => exact ih _ (h_turn r turn h)
  exact h_turns launcher.early _ h

section

variable (obs : Observer σ) (limits : Limits) (command : List String) (launcher : Launcher)
  (around : σ)

theorem reasoned_setGoing :
    Reasoned (started obs limits command launcher (obs.overtake launcher around))
      (setGoing obs limits command launcher around).2 := by
  have h_begun : Reasoned (started obs limits command launcher (obs.overtake launcher around))
      (begun obs limits command launcher (obs.overtake launcher around)) :=
    begun_induct (fun r turn h => h.trans (reasoned_turn obs _ r turn)) .rfl
  exact h_begun.trans (reasoned_register obs _)

theorem reasoned_read :
    Reasoned (started obs limits command launcher (obs.overtake launcher around))
      (read obs limits command launcher around).2 :=
  (reasoned_setGoing obs limits command launcher around).trans (reasoned_watch obs _ _ _)

end

end Running

/-! ## How far a run gets -/

/-- Whether a process can be started, and its timer if it has one. -/
structure Launcher.Starts (launcher : Launcher) (limits : Limits) : Prop where
  launched : launcher.launchFailure = none
  timed : limits.wall.isSome = true → launcher.timerFailure = none

section

variable {obs : Observer σ} {limits : Limits} {program : String} {arguments : List String}
  {launcher : Launcher} {around : σ}

theorem run_of_cancelled (h_cancelled : obs.cancelled around = true) :
    run obs limits program arguments launcher around =
      (.error (ended (program :: arguments) (program ++ " was cancelled before it started") none []
        none), launcher, around) := by
  unfold run
  rw [if_pos h_cancelled]

theorem run_of_launchFailure (h_cancelled : obs.cancelled around = false) {f : Failure}
    (h_launch : launcher.launchFailure = some f) :
    run obs limits program arguments launcher around =
      (.error (if f.isSystem then
          ended (program :: arguments) ("Failed to launch " ++ program ++ ": " ++ f.text) none []
            (some f)
        else f), launcher, obs.overtake launcher around) := by
  unfold run
  rw [h_cancelled, if_neg Bool.false_ne_true, h_launch]
  dsimp only
  split <;> rfl

theorem run_of_timerFailure (h_cancelled : obs.cancelled around = false)
    (h_launch : launcher.launchFailure = none) (h_timed : limits.wall.isSome = true) {f : Failure}
    (h_timer : launcher.timerFailure = some f) :
    run obs limits program arguments launcher around =
      (.error f, launcher.note (launchActs limits (program :: arguments)),
        obs.started (obs.overtake launcher around)) := by
  unfold run
  rw [h_cancelled, if_neg Bool.false_ne_true, h_launch]
  dsimp only
  rw [if_pos h_timed, h_timer]

/-- A run that can be started is read and concluded, unless its release could not be registered. -/
theorem run_of_starts (h_cancelled : obs.cancelled around = false)
    (h_starts : launcher.Starts limits) :
    run obs limits program arguments launcher around =
      match Running.setGoing obs limits (program :: arguments) launcher around with
      | (.error f, r) => (.error f, r.launcher, r.around)
      | (.ok (), _) => Running.conclude obs limits program arguments
          (Running.read obs limits (program :: arguments) launcher around) := by
  have h_timer : (if limits.wall.isSome then launcher.timerFailure else none) = none := by
    split
    · exact h_starts.timed ‹_›
    · rfl
  unfold run Running.read Running.setGoing
  rw [h_cancelled, if_neg Bool.false_ne_true, h_starts.launched]
  dsimp only
  rw [h_timer]
  dsimp only
  rcases Running.register obs _ with ⟨f | _, r⟩ <;> rfl

/-- The ways a run can take. -/
theorem run_ways (obs : Observer σ) (limits : Limits) (launcher : Launcher) (around : σ) :
    obs.cancelled around = true ∨
    obs.cancelled around = false ∧ ((∃ f, launcher.launchFailure = some f) ∨
      launcher.launchFailure = none ∧ (∃ f, limits.wall.isSome = true ∧
        launcher.timerFailure = some f) ∨
      launcher.Starts limits) := by
  cases h_cancelled : obs.cancelled around with
  | true => exact .inl rfl
  | false =>
    refine .inr ⟨rfl, ?_⟩
    cases h_launch : launcher.launchFailure with
    | some f => exact .inl ⟨f, rfl⟩
    | none =>
      cases h_timer : launcher.timerFailure with
      | none => exact .inr (.inr ⟨h_launch, fun _ => h_timer⟩)
      | some f =>
        cases h_timed : limits.wall.isSome with
        | true => exact .inr (.inl ⟨rfl, f, rfl, rfl⟩)
        | false => exact .inr (.inr ⟨h_launch, fun h => by rw [h_timed] at h; cases h⟩)

end

/-! ## Runs that are let go of -/

/-- A run that was read to the end and waited for is only let go of. -/
theorem Running.finish_wait (obs : Observer σ) (timed : Bool) (r : Running σ) :
    (r.wait.finish obs timed).1 = .ok () ∧
    (r.wait.finish obs timed).2.reasons = r.reasons ∧
    (r.wait.finish obs timed).2.status = some (r.status.getD r.launcher.exitStatus) ∧
    (r.wait.finish obs timed).2.launcher.history = r.launcher.history ++
      (if timed then [.timerStopped] else []) ++
      [.reaped (r.status.getD r.launcher.exitStatus), .outputClosed] := by
  refine ⟨rfl, rfl, rfl, ?_⟩
  simp [finish, letGo, killRunning, reap, wait, Launcher.note]

section

variable {obs : Observer σ} {limits : Limits} {program : String} {arguments : List String}
  {launcher : Launcher} {around : σ}

/-- A run whose output is read to the end waits for its process, cleans up and has its outcome. -/
theorem Running.conclude_of_ok {read : Except Failure Unit × Running σ} (h_end : read.1 = .ok ()) :
    ∃ finished, finished = (read.2.wait.finish obs limits.wall.isSome).2 ∧
      conclude obs limits program arguments read =
        (finished.outcome program (program :: arguments), finished.launcher, finished.around) := by
  obtain ⟨_, r⟩ := read
  cases h_end
  obtain ⟨h_closing, -⟩ := r.finish_wait obs limits.wall.isSome
  refine ⟨_, rfl, ?_⟩
  unfold conclude
  dsimp only
  rw [h_closing]
  rfl

/-- A line that was not taken is what leaves a run, unless its process still runs and may not be
killed. -/
theorem Running.conclude_of_error {read : Except Failure Unit × Running σ} {f : Failure}
    (h_end : read.1 = .error f) :
    (conclude obs limits program arguments read).1 = .error (read.2.refusal?.getD f) := by
  obtain ⟨_, r⟩ := read
  cases h_end
  have h_closing := r.finish_fst obs limits.wall.isSome
  unfold conclude
  dsimp only
  rw [h_closing]
  cases r.refusal? <;> rfl

/-- A run that was set going concludes what it reads. -/
theorem run_of_going (h_cancelled : obs.cancelled around = false) (h_starts : launcher.Starts limits)
    (h_going : (Running.setGoing obs limits (program :: arguments) launcher around).1 = .ok ()) :
    run obs limits program arguments launcher around =
      Running.conclude obs limits program arguments
        (Running.read obs limits (program :: arguments) launcher around) := by
  rw [run_of_starts h_cancelled h_starts]
  rcases h_after : Running.setGoing obs limits (program :: arguments) launcher around
    with ⟨f | _, r⟩
  · rw [h_after] at h_going
    cases h_going
  · rfl

end

/-- A run has an outcome only if there is no reason and its status is 0. -/
theorem Running.outcome_ok {program : String} {command : List String} {r : Running σ}
    {text : String} (h : r.outcome program command = .ok text) :
    r.reasons = [] ∧ r.status.getD 0 = 0 := by
  unfold outcome at h
  split at h
  · cases h
  · rename_i h_reasons
    dsimp only at h
    split at h
    · rename_i h_status
      exact ⟨h_reasons, h_status⟩
    · cases h

/-- A run concludes well only if it was read to the end, left alone, and ended with status 0. -/
theorem Running.conclude_ok {obs : Observer σ} {limits : Limits} {program : String}
    {arguments : List String} {read : Except Failure Unit × Running σ} {text : String}
    {launcher' : Launcher} {around' : σ}
    (h : conclude obs limits program arguments read = (.ok text, launcher', around')) :
    read.2.reasons = [] ∧ launcher'.history = read.2.launcher.history ++
      (if limits.wall.isSome then [.timerStopped] else []) ++ [.reaped 0, .outputClosed] := by
  obtain ⟨f | _, r⟩ := read
  · unfold conclude at h
    dsimp only at h
    rcases h_finish : r.finish obs limits.wall.isSome with ⟨g | _, r'⟩
    all_goals
      rw [h_finish] at h
      cases h
  · obtain ⟨h_closing, h_finished, h_status, h_history⟩ := r.finish_wait obs limits.wall.isSome
    unfold conclude at h
    dsimp only at h
    obtain ⟨h_outcome, h_after⟩ := Prod.mk.inj h
    rw [h_closing] at h_outcome
    obtain ⟨h_reasons, h_zero⟩ := Running.outcome_ok h_outcome
    rw [h_finished] at h_reasons
    rw [h_status, Option.getD_some] at h_zero
    refine ⟨h_reasons, ?_⟩
    rw [← (Prod.mk.inj h_after).1, h_history, h_zero]

/-- A run ends well only if the token was not cancelled before, the process was left alone, and it
ended with status 0. -/
theorem run_ok {obs : Observer σ} {limits : Limits} {program : String} {arguments : List String}
    {launcher launcher' : Launcher} {around around' : σ} {text : String}
    (h : run obs limits program arguments launcher around = (.ok text, launcher', around')) :
    obs.cancelled around = false ∧
    (Running.read obs limits (program :: arguments) launcher around).2.reasons = [] ∧
    launcher'.history = launcher.history ++ goodActs limits (program :: arguments) := by
  rcases run_ways obs limits launcher around with h_cancelled | ⟨h_cancelled, h_way⟩
  · rw [run_of_cancelled h_cancelled] at h
    cases h
  refine ⟨h_cancelled, ?_⟩
  rcases h_way with ⟨f, h_launch⟩ | ⟨h_launch, f, h_timed, h_timer⟩ | h_starts
  · rw [run_of_launchFailure h_cancelled h_launch] at h
    cases h
  · rw [run_of_timerFailure h_cancelled h_launch h_timed h_timer] at h
    cases h
  · rw [run_of_starts h_cancelled h_starts] at h
    rcases h_going : Running.setGoing obs limits (program :: arguments) launcher around
      with ⟨f | _, r⟩
    all_goals rw [h_going] at h
    · cases h
    · obtain ⟨h_reasons, h_history⟩ := Running.conclude_ok h
      refine ⟨h_reasons, ?_⟩
      obtain ⟨-, h_same⟩ :=
        (Running.reasoned_read obs limits (program :: arguments) launcher around).of_nil h_reasons
      rw [h_history, h_same]
      simp [Running.started, Launcher.note, goodActs]

end ImageIntake.Job
