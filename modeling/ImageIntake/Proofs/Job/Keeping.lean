/-
  ImageIntake.Proofs.Job.Keeping

  What a run does to its surroundings.  It tells them of its start and of every line,
  registers its release with their token and takes it back, and passes cancellations on.
  Whatever each of these keeps, a whole run keeps (`run_keeps`).
-/

import ImageIntake.Proofs.Job.Success

namespace ImageIntake.Job

open ImageIntake.Cancellation ImageIntake.Http

variable {σ : Type} {obs : Observer σ} {P : σ → Prop}

/-- An observer that keeps something of the surroundings, whatever it is told. -/
structure Observer.Keeps (obs : Observer σ) (P : σ → Prop) : Prop where
  started : ∀ s, P s → P (obs.started s)
  line : ∀ line s, P s → P (obs.hand line s).2
  register : ∀ s, P s → P (obs.onToken (fun token => (token.register .process).1) s)
  withdraw : ∀ s, P s → P (obs.onToken (·.withdraw .process) s)
  cancel : ∀ s, P s → P (obs.cancel s).2

namespace Running

theorem around_signal (r : Running σ) : r.signal.around = r.around := by
  unfold signal
  dsimp only
  split <;> rfl

theorem around_stop (r : Running σ) (reason : Reason) : (r.stop reason).around = r.around := by
  unfold stop
  split
  · exact around_signal _
  · rfl

theorem around_register (obs : Observer σ) (r : Running σ) :
    (r.register obs).2.around = obs.onToken (fun token => (token.register .process).1) r.around := by
  unfold register Observer.onToken
  cases obs.token r.around with
  | none => rfl
  | some token =>
    dsimp only
    split
    · rw [kill_snd, around_signal]
    · rfl

theorem around_killRunning (r : Running σ) : r.killRunning.2.around = r.around := by
  unfold killRunning
  split
  · rw [kill_snd, around_signal]
  · rfl

theorem around_finish (obs : Observer σ) (timed : Bool) (r : Running σ) :
    (r.finish obs timed).2.around = obs.onToken (·.withdraw .process) r.around := by
  have h_killed := around_killRunning (r.letGo obs timed)
  unfold finish
  rcases h_after : (r.letGo obs timed).killRunning with ⟨f | _, r'⟩
  all_goals
    rw [h_after] at h_killed
    exact h_killed

section

variable (h : obs.Keeps P) {r : Running σ}
include h

theorem turn_keeps (timed : Bool) (turn : Turn) (h_now : P r.around) :
    P (r.turn obs timed turn).around := by
  cases turn with
  | exit => exact h_now
  | timeout =>
    unfold Running.turn
    dsimp only
    split
    · rw [around_stop]
      exact h_now
    · exact h_now
  | cancel => exact h.cancel r.around h_now

theorem begun_keeps (limits : Limits) (command : List String) (launcher : Launcher) {around : σ}
    (h_now : P around) : P (begun obs limits command launcher around).around := by
  have h_started : P (started obs limits command launcher around).around := h.started _ h_now
  exact begun_induct (P := fun r => P r.around) (fun _ turn => turn_keeps h _ turn) h_started

theorem register_keeps (h_now : P r.around) : P (r.register obs).2.around := by
  rw [around_register]
  exact h.register _ h_now

theorem deliver_keeps (lines : List String) (h_now : P r.around) :
    P (r.deliver obs lines).2.around := by
  induction lines generalizing r with
  | nil => exact h_now
  | cons line rest ih =>
    have h_line := h.line line r.around h_now
    unfold deliver
    rcases h_outcome : obs.hand line r.around with ⟨f | _, around⟩
    all_goals rw [h_outcome] at h_line
    · exact h_line
    · exact ih h_line

theorem step_keeps (timed : Bool) (event : Event) (h_now : P r.around) :
    P (r.step obs timed event).2.around := by
  cases event with
  | output bytes => exact deliver_keeps h (r := { r with unfinished := _ }) _ h_now
  | exit => exact h_now
  | timeout =>
    unfold step
    dsimp only
    split
    · rw [around_stop]
      exact h_now
    · exact h_now
  | cancel =>
    have h_cancelled := h.cancel r.around h_now
    unfold step
    dsimp only
    split
    · rw [around_stop]
      exact h_cancelled
    · exact h_cancelled

theorem watch_keeps (timed : Bool) (left : Nat) (h_now : P r.around) :
    P (r.watch obs timed left).2.around := by
  induction left generalizing r with
  | zero => exact deliver_keeps h (r := { r with unfinished := [] }) _ h_now
  | succ left ih =>
    unfold watch
    cases r.launcher.events with
    | nil => exact deliver_keeps h (r := { r with unfinished := [] }) _ h_now
    | cons event rest =>
      have h_step := step_keeps h timed event
        (r := { r with launcher := { r.launcher with events := rest } }) h_now
      dsimp only
      split
      all_goals
        rename_i h_after
        rw [h_after] at h_step
      · exact h_step
      · exact ih h_step

theorem finish_keeps (timed : Bool) (h_now : P r.around) : P (r.finish obs timed).2.around := by
  rw [around_finish]
  exact h.withdraw r.around h_now

theorem conclude_keeps (limits : Limits) (program : String) (arguments : List String)
    {read : Except Failure Unit × Running σ} (h_now : P read.2.around) :
    P (conclude obs limits program arguments read).2.2 := by
  obtain ⟨f | _, r⟩ := read
  · exact finish_keeps h limits.wall.isSome h_now
  · exact finish_keeps h (r := r.wait) limits.wall.isSome h_now

end

end Running

theorem Observer.Keeps.overtake (h : obs.Keeps P) (launcher : Launcher) {s : σ} (h_now : P s) :
    P (obs.overtake launcher s) := by
  unfold Observer.overtake
  split
  · exact h.cancel s h_now
  · exact h_now

/-- A run keeps what everything keeps that it does to its surroundings. -/
theorem run_keeps (h : obs.Keeps P) (limits : Limits) (program : String) (arguments : List String)
    (launcher : Launcher) {around : σ} (h_now : P around) :
    P (run obs limits program arguments launcher around).2.2 := by
  have h_overtaken := h.overtake launcher h_now
  rcases run_ways obs limits launcher around with h_cancelled | ⟨h_cancelled, h_way⟩
  · rw [run_of_cancelled h_cancelled]
    exact h_now
  rcases h_way with ⟨f, h_launch⟩ | ⟨h_launch, f, h_timed, h_timer⟩ | h_starts
  · rw [run_of_launchFailure h_cancelled h_launch]
    exact h_overtaken
  · rw [run_of_timerFailure h_cancelled h_launch h_timed h_timer]
    exact h.started _ h_overtaken
  · have h_going : P (Running.setGoing obs limits (program :: arguments) launcher around).2.around :=
      Running.register_keeps h (Running.begun_keeps h limits _ launcher h_overtaken)
    have h_read : P (Running.read obs limits (program :: arguments) launcher around).2.around :=
      Running.watch_keeps h _ _ h_going
    rw [run_of_starts h_cancelled h_starts]
    rcases h_after : Running.setGoing obs limits (program :: arguments) launcher around
      with ⟨f | _, r⟩
    all_goals rw [h_after] at h_going
    · exact h_going
    · exact Running.conclude_keeps h limits program arguments h_read

end ImageIntake.Job
