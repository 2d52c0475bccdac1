/-
  ImageIntake.Proofs.Job.Matching

  Runs of one program with two command lines.  Nothing that happens while a program runs
  depends on its command line, or on what was done with processes before: every event
  keeps two such runs alike (`step_alike`), and by induction so does the reading of the
  output (`watch_alike`).  They end in the same way, and so that what is told of a failure
  is the same; only the report of the process names the command line (`run_agree`).
-/

import ImageIntake.Proofs.Agreement
import ImageIntake.Proofs.Job.Success

namespace ImageIntake

/-! ## What is told of a failure -/

/-- A failure as it is told: its family and its wording, without its cause and without the report of
a process. -/
def Failure.bare : Failure → Failure
  | .pipeline trouble message _ => .pipeline trouble message none
  | .process message _ _ => .process message ⟨[], none, []⟩ none
  | .outside fault => .outside fault

namespace Failure

/-- Whether two failures are told alike. -/
def ToldAlike (f g : Failure) : Prop := f.bare = g.bare

variable {f g : Failure}

theorem text_bare (f : Failure) : f.bare.text = f.text := by
  cases f <;> rfl

theorem name_bare (f : Failure) : f.bare.name = f.name := by
  cases f <;> rfl

theorem trouble?_bare (f : Failure) : f.bare.trouble? = f.trouble? := by
  cases f <;> rfl

theorem endsProgram_bare (f : Failure) : f.bare.endsProgram = f.endsProgram := by
  cases f <;> rfl

namespace ToldAlike

variable (h : f.ToldAlike g)
include h

theorem text : f.text = g.text := by
  rw [← text_bare f, ← text_bare g, h]

theorem name : f.name = g.name := by
  rw [← name_bare f, ← name_bare g, h]

theorem trouble? : f.trouble? = g.trouble? := by
  rw [← trouble?_bare f, ← trouble?_bare g, h]

theorem endsProgram : f.endsProgram = g.endsProgram := by
  rw [← endsProgram_bare f, ← endsProgram_bare g, h]

end ToldAlike

end Failure

namespace Job

open ImageIntake.Cancellation ImageIntake.Http

variable {σ : Type} {obs : Observer σ} {R : σ → σ → Prop}

/-! ## Observers -/

/-- An observer who takes the same lines in related surroundings, sees the same token in them, and
leaves them related. -/
structure Observer.Respects (obs : Observer σ) (R : σ → σ → Prop) : Prop where
  started : ∀ s t, R s t → R (obs.started s) (obs.started t)
  line : ∀ line s t, R s t → (obs.hand line s).1 = (obs.hand line t).1 ∧
    R (obs.hand line s).2 (obs.hand line t).2
  token : ∀ s t, R s t → obs.token s = obs.token t
  setToken : ∀ token s t, R s t → R (obs.setToken token s) (obs.setToken token t)
  release : ∀ hold s t, R s t → R (obs.release hold s) (obs.release hold t)

namespace Observer.Respects

variable (h : obs.Respects R) {s t : σ} (h_rel : R s t)
include h h_rel

theorem cancelled : obs.cancelled s = obs.cancelled t := by
  rw [Observer.cancelled, Observer.cancelled, h.token s t h_rel]

theorem onToken (change : Token Hold → Token Hold) : R (obs.onToken change s) (obs.onToken change t) := by
  unfold Observer.onToken
  rw [h.token s t h_rel]
  cases obs.token t with
  | none => exact h_rel
  | some token => exact h.setToken _ s t h_rel

theorem cancel : (obs.cancel s).1 = (obs.cancel t).1 ∧ R (obs.cancel s).2 (obs.cancel t).2 := by
  have h_released (holds : List Hold) {s t : σ} (h_rel : R s t) :
      R (holds.foldl (fun s hold => obs.release hold s) s)
        (holds.foldl (fun s hold => obs.release hold s) t) := by
    induction holds generalizing s t with
    | nil => exact h_rel
    | cons hold rest ih => exact ih (h.release hold s t h_rel)
  unfold Observer.cancel
  rw [h.token s t h_rel]
  cases obs.token t with
  | none => exact ⟨rfl, h_rel⟩
  | some token => exact ⟨rfl, h_released _ (h.setToken _ s t h_rel)⟩

theorem overtake (launcher : Launcher) :
    R (obs.overtake launcher s) (obs.overtake launcher t) := by
  unfold Observer.overtake
  split
  · exact (h.cancel h_rel).2
  · exact h_rel

end Observer.Respects

/-- The same launcher with another history. -/
def Launcher.retold (history : List Act) (launcher : Launcher) : Launcher :=
  { launcher with history }

namespace Running

/-! ## Runs that are alike -/

/-- The same run with another history, in other surroundings. -/
def elsewhere (history : List Act) (around : σ) (r : Running σ) : Running σ :=
  { r with launcher := r.launcher.retold history, around }

/-- Runs that are the same but for what was done with processes before, in related surroundings. -/
def Alike (R : σ → σ → Prop) (r r' : Running σ) : Prop :=
  ∃ history around, R r.around around ∧ r' = r.elsewhere history around

section

variable {r r' : Running σ} (h_alike : r.Alike R r')
include h_alike

theorem signal_alike : r.signal.Alike R r'.signal := by
  obtain ⟨history, around, h_rel, rfl⟩ := h_alike
  have h_reply : (r.elsewhere history around).launcher.killReply = r.launcher.killReply := rfl
  unfold signal
  rw [h_reply]
  cases r.launcher.killReply <;> exact ⟨_, around, h_rel, rfl⟩

theorem kill_alike : r.kill.1 = r'.kill.1 ∧ r.kill.2.Alike R r'.kill.2 := by
  have h_reply : r'.launcher.killReply = r.launcher.killReply := by
    obtain ⟨history, around, -, rfl⟩ := h_alike
    rfl
  have h_signal := signal_alike h_alike
  unfold kill
  rw [h_reply]
  split <;> exact ⟨rfl, h_signal⟩

theorem stop_alike (reason : Reason) : (r.stop reason).Alike R (r'.stop reason) := by
  obtain ⟨history, around, h_rel, rfl⟩ := id h_alike
  have h_status : (r.elsewhere history around).status = r.status := rfl
  unfold stop
  rw [h_status]
  split
  · exact signal_alike ⟨history, around, h_rel, rfl⟩
  · exact h_alike

theorem killRunning_alike :
    r.killRunning.1 = r'.killRunning.1 ∧ r.killRunning.2.Alike R r'.killRunning.2 := by
  have h_status : r'.status = r.status := by
    obtain ⟨history, around, -, rfl⟩ := h_alike
    rfl
  unfold killRunning
  rw [h_status]
  split
  · exact kill_alike h_alike
  · exact ⟨rfl, h_alike⟩

theorem note_alike (acts acts' : List Act) :
    Alike R { r with launcher := r.launcher.note acts }
      { r' with launcher := r'.launcher.note acts' } := by
  obtain ⟨history, around, h_rel, rfl⟩ := h_alike
  exact ⟨_, around, h_rel, rfl⟩

theorem wait_alike : r.wait.Alike R r'.wait := by
  obtain ⟨history, around, h_rel, rfl⟩ := h_alike
  exact ⟨history, around, h_rel, rfl⟩

variable (h : obs.Respects R)
include h

theorem deliver_alike (lines : List String) :
    (r.deliver obs lines).1 = (r'.deliver obs lines).1 ∧
      (r.deliver obs lines).2.Alike R (r'.deliver obs lines).2 := by
  induction lines generalizing r r' with
  | nil => exact ⟨rfl, h_alike⟩
  | cons line rest ih =>
    obtain ⟨history, around, h_rel, rfl⟩ := h_alike
    obtain ⟨h_outcome, h_after⟩ := h.line line r.around around h_rel
    have h_around : (r.elsewhere history around).around = around := rfl
    unfold deliver
    rw [h_around]
    rcases h_left : obs.hand line r.around with ⟨outcome, s⟩
    rcases h_right : obs.hand line around with ⟨_, t⟩
    rw [h_left, h_right] at h_outcome h_after
    obtain rfl : outcome = _ := h_outcome
    cases outcome with
    | error f => exact ⟨rfl, history, t, h_after, rfl⟩
    | ok => exact ih ⟨history, t, h_after, rfl⟩

/-- What happens while the token does not hold the release keeps runs alike. -/
theorem turn_alike (timed : Bool) (turn : Turn) :
    (r.turn obs timed turn).Alike R (r'.turn obs timed turn) := by
  cases turn with
  | exit => exact wait_alike h_alike
  | timeout =>
    unfold Running.turn
    dsimp only
    split
    · exact stop_alike h_alike _
    · exact h_alike
  | cancel =>
    obtain ⟨history, around, h_rel, rfl⟩ := h_alike
    exact ⟨history, _, (h.cancel h_rel).2, rfl⟩

theorem register_alike :
    (r.register obs).1 = (r'.register obs).1 ∧ (r.register obs).2.Alike R (r'.register obs).2 := by
  obtain ⟨history, around, h_rel, rfl⟩ := h_alike
  have h_status : (r.elsewhere history around).status = r.status := rfl
  have h_token : obs.token (r.elsewhere history around).around = obs.token r.around :=
    (h.token _ _ h_rel).symm
  unfold register
  rw [h_token, h_status]
  cases obs.token r.around with
  | none => exact ⟨rfl, history, around, h_rel, rfl⟩
  | some token =>
    have h_set (token : Token Hold) : Alike R { r with around := obs.setToken token r.around }
        { r.elsewhere history around with around := obs.setToken token around } :=
      ⟨history, _, h.setToken token _ _ h_rel, rfl⟩
    dsimp only
    split
    · exact kill_alike ⟨history, _, h.setToken _ _ _ h_rel, rfl⟩
    · exact ⟨rfl, h_set _⟩

/-- An event keeps runs alike. -/
theorem step_alike (timed : Bool) (event : Event) :
    (r.step obs timed event).1 = (r'.step obs timed event).1 ∧
      (r.step obs timed event).2.Alike R (r'.step obs timed event).2 := by
  obtain ⟨history, around, h_rel, rfl⟩ := h_alike
  cases event with
  | output bytes =>
    exact deliver_alike (r := { r with unfinished := (takeLines r.unfinished bytes).2 })
      ⟨history, around, h_rel, rfl⟩ h _
  | exit => exact ⟨rfl, history, around, h_rel, rfl⟩
  | timeout =>
    refine ⟨rfl, ?_⟩
    unfold step
    dsimp only
    split
    · exact stop_alike ⟨history, around, h_rel, rfl⟩ _
    · exact ⟨history, around, h_rel, rfl⟩
  | cancel =>
    obtain ⟨h_mine, h_after⟩ := h.cancel h_rel
    have h_around : (r.elsewhere history around).around = around := rfl
    refine ⟨rfl, ?_⟩
    unfold step
    dsimp only
    rw [h_around, ← h_mine]
    split
    · exact stop_alike ⟨history, _, h_after, rfl⟩ _
    · exact ⟨history, _, h_after, rfl⟩

/-- So does what the output ends with. -/
theorem deliverLast_alike :
    ({ r with unfinished := [] }.deliver obs (lastLine r.unfinished)).1 =
        ({ r' with unfinished := [] }.deliver obs (lastLine r'.unfinished)).1 ∧
      ({ r with unfinished := [] }.deliver obs (lastLine r.unfinished)).2.Alike R
        ({ r' with unfinished := [] }.deliver obs (lastLine r'.unfinished)).2 := by
  obtain ⟨history, around, h_rel, rfl⟩ := h_alike
  exact deliver_alike (r := { r with unfinished := [] }) ⟨history, around, h_rel, rfl⟩ h _

theorem watch_alike (timed : Bool) (left : Nat) :
    (r.watch obs timed left).1 = (r'.watch obs timed left).1 ∧
      (r.watch obs timed left).2.Alike R (r'.watch obs timed left).2 := by
  induction left generalizing r r' with
  | zero => exact deliverLast_alike h_alike h
  | succ left ih =>
    have h_last := deliverLast_alike h_alike h
    obtain ⟨history, around, h_rel, rfl⟩ := h_alike
    have h_events : (r.elsewhere history around).launcher.events = r.launcher.events := rfl
    unfold watch
    rw [h_events]
    cases r.launcher.events with
    | nil => exact h_last
    | cons event rest =>
      have h_step := step_alike
        (r := { r with launcher := { r.launcher with events := rest } })
        ⟨history, around, h_rel, rfl⟩ h timed event
      have h_next : ({ r.elsewhere history around with
          launcher := { (r.elsewhere history around).launcher with events := rest } } : Running σ) =
        { r with launcher := { r.launcher with events := rest } }.elsewhere history around := rfl
      dsimp only
      rw [h_next]
      generalize step obs timed { r with launcher := { r.launcher with events := rest } } event = x
        at h_step ⊢
      generalize step obs timed
        ({ r with launcher := { r.launcher with events := rest } }.elsewhere history around) event = y
        at h_step ⊢
      obtain ⟨outcome, s⟩ := x
      obtain ⟨_, t⟩ := y
      obtain ⟨rfl, h_after⟩ := h_step
      cases outcome with
      | error f => exact ⟨rfl, h_after⟩
      | ok => exact ih h_after

theorem letGo_alike (timed : Bool) : (r.letGo obs timed).Alike R (r'.letGo obs timed) := by
  obtain ⟨history, around, h_rel, rfl⟩ := h_alike
  exact ⟨_, _, h.onToken h_rel _, rfl⟩

theorem finish_alike (timed : Bool) :
    (r.finish obs timed).1 = (r'.finish obs timed).1 ∧
      (r.finish obs timed).2.Alike R (r'.finish obs timed).2 := by
  have h_killed := killRunning_alike (letGo_alike h_alike h timed)
  unfold finish
  generalize (r.letGo obs timed).killRunning = x at h_killed ⊢
  generalize (r'.letGo obs timed).killRunning = y at h_killed ⊢
  obtain ⟨outcome, s⟩ := x
  obtain ⟨_, t⟩ := y
  obtain ⟨rfl, h_after⟩ := h_killed
  cases outcome with
  | error f => exact ⟨rfl, h_after⟩
  | ok => exact ⟨rfl, note_alike (wait_alike h_after) _ _⟩

end

section

variable (h : obs.Respects R) (limits : Limits) (command command' : List String)
  (launcher : Launcher) (history : List Act) {around around' : σ} (h_rel : R around around')
include h h_rel

theorem begun_alike :
    (begun obs limits command launcher around).Alike R
      (begun obs limits command' (launcher.retold history) around') := by
  have h_turns (turns : List Turn) {r r' : Running σ} (h_alike : r.Alike R r') :
      (turns.foldl (turn obs limits.wall.isSome) r).Alike R
        (turns.foldl (turn obs limits.wall.isSome) r') := by
    induction turns generalizing r r' with
    | nil => exact h_alike
    | cons turn rest ih => exact ih (turn_alike h_alike h _ turn)
  exact h_turns launcher.early ⟨_, _, h.started _ _ h_rel, rfl⟩

/-- Set going alike, they read alike what the processes show. -/
theorem setGoing_alike :
    (setGoing obs limits command launcher around).1 =
        (setGoing obs limits command' (launcher.retold history) around').1 ∧
      (setGoing obs limits command launcher around).2.Alike R
        (setGoing obs limits command' (launcher.retold history) around').2 :=
  register_alike
    (begun_alike h limits command command' launcher history (h.overtake h_rel launcher)) h

theorem read_alike :
    (read obs limits command launcher around).1 =
        (read obs limits command' (launcher.retold history) around').1 ∧
      (read obs limits command launcher around).2.Alike R
        (read obs limits command' (launcher.retold history) around').2 := by
  obtain ⟨-, h_going⟩ := setGoing_alike h limits command command' launcher history h_rel
  have h_events : (setGoing obs limits command' (launcher.retold history) around').2.launcher.events =
      (setGoing obs limits command launcher around).2.launcher.events := by
    obtain ⟨_, _, -, h_same⟩ := h_going
    rw [h_same]
    rfl
  unfold read
  dsimp only
  rw [h_events]
  exact watch_alike h_going h _ _

end

/-- What is told of how runs ended that are alike. -/
theorem outcome_agree {r r' : Running σ} (h_alike : r.Alike R r') (program : String)
    (command command' : List String) :
    Agree Failure.ToldAlike Eq (r.outcome program command) (r'.outcome program command') := by
  obtain ⟨history, around, -, rfl⟩ := h_alike
  have h_same : (r.elsewhere history around).reasons = r.reasons ∧
      (r.elsewhere history around).status = r.status ∧
      (r.elsewhere history around).tail = r.tail := ⟨rfl, rfl, rfl⟩
  unfold outcome
  rw [h_same.1, h_same.2.1, h_same.2.2]
  cases r.reasons with
  | cons reason rest => exact .error rfl
  | nil =>
    dsimp only
    split
    · exact .ok rfl
    · exact .error rfl

theorem Alike.split {r r' : Running σ} (h : r.Alike R r') :
    (∃ history, r'.launcher = r.launcher.retold history) ∧ R r.around r'.around := by
  obtain ⟨history, around, h_rel, rfl⟩ := h
  exact ⟨⟨history, rfl⟩, h_rel⟩

end Running

/-! ## Whole runs -/

/-- What is told of two runs that went alike, and what they leave. -/
def EndAlike (R : σ → σ → Prop) (ended ended' : Except Failure String × Launcher × σ) : Prop :=
  Agree Failure.ToldAlike Eq ended.1 ended'.1 ∧
    (∃ history, ended'.2.1 = ended.2.1.retold history) ∧ R ended.2.2 ended'.2.2

theorem Running.conclude_alike (h : obs.Respects R) (limits : Limits) (program : String)
    (arguments arguments' : List String) {read read' : Except Failure Unit × Running σ}
    (h_same : read.1 = read'.1) (h_alike : read.2.Alike R read'.2) :
    EndAlike R (conclude obs limits program arguments read)
      (conclude obs limits program arguments' read') := by
  obtain ⟨outcome, r⟩ := read
  obtain ⟨_, r'⟩ := read'
  obtain rfl : outcome = _ := h_same
  cases outcome with
  | error f =>
    have h_finished := finish_alike h_alike h limits.wall.isSome
    unfold conclude
    dsimp only at h_finished ⊢
    generalize r.finish obs limits.wall.isSome = x at h_finished ⊢
    generalize r'.finish obs limits.wall.isSome = y at h_finished ⊢
    obtain ⟨closing, s⟩ := x
    obtain ⟨_, s'⟩ := y
    obtain ⟨rfl, h_after⟩ := h_finished
    refine ⟨?_, h_after.split⟩
    cases closing <;> exact .error rfl
  | ok =>
    have h_finished := finish_alike (wait_alike h_alike) h limits.wall.isSome
    unfold conclude
    dsimp only at h_finished ⊢
    generalize r.wait.finish obs limits.wall.isSome = x at h_finished ⊢
    generalize r'.wait.finish obs limits.wall.isSome = y at h_finished ⊢
    obtain ⟨closing, s⟩ := x
    obtain ⟨_, s'⟩ := y
    obtain ⟨rfl, h_after⟩ := h_finished
    refine ⟨?_, h_after.split⟩
    cases closing with
    | error f => exact .error rfl
    | ok => exact outcome_agree h_after program _ _

/-- Runs of a program with two command lines are told alike, and leave alike what is around them. -/
theorem run_agree (h : obs.Respects R) (limits : Limits) (program : String)
    (arguments arguments' : List String) (launcher : Launcher) (history : List Act)
    {around around' : σ} (h_rel : R around around') :
    EndAlike R (run obs limits program arguments launcher around)
      (run obs limits program arguments' (launcher.retold history) around') := by
  have h_overtaken := h.overtake h_rel launcher
  rcases run_ways obs limits launcher around with h_cancelled | ⟨h_cancelled, h_way⟩
  all_goals have h_cancelled' := (h.cancelled h_rel).symm.trans h_cancelled
  · rw [run_of_cancelled h_cancelled, run_of_cancelled h_cancelled']
    exact ⟨.error rfl, ⟨history, rfl⟩, h_rel⟩
  rcases h_way with ⟨f, h_launch⟩ | ⟨h_launch, f, h_timed, h_timer⟩ | h_starts
  · have h_launch' : (launcher.retold history).launchFailure = some f := h_launch
    rw [run_of_launchFailure h_cancelled h_launch, run_of_launchFailure h_cancelled' h_launch']
    refine ⟨?_, ⟨history, rfl⟩, h_overtaken⟩
    split <;> exact .error rfl
  · have h_launch' : (launcher.retold history).launchFailure = none := h_launch
    have h_timer' : (launcher.retold history).timerFailure = some f := h_timer
    rw [run_of_timerFailure h_cancelled h_launch h_timed h_timer,
      run_of_timerFailure h_cancelled' h_launch' h_timed h_timer']
    exact ⟨.error rfl, ⟨_, rfl⟩, h.started _ _ h_overtaken⟩
  · have h_starts' : (launcher.retold history).Starts limits := ⟨h_starts.launched, h_starts.timed⟩
    obtain ⟨h_same, h_going⟩ := Running.setGoing_alike h limits (program :: arguments)
      (program :: arguments') launcher history h_rel
    obtain ⟨h_read, h_after⟩ := Running.read_alike h limits (program :: arguments)
      (program :: arguments') launcher history h_rel
    rw [run_of_starts h_cancelled h_starts, run_of_starts h_cancelled' h_starts']
    generalize Running.setGoing obs limits (program :: arguments) launcher around = x
      at h_same h_going ⊢
    generalize Running.setGoing obs limits (program :: arguments') (launcher.retold history) around'
      = y at h_same h_going ⊢
    obtain ⟨outcome, r⟩ := x
    obtain ⟨_, r'⟩ := y
    obtain rfl : outcome = _ := h_same
    cases outcome with
    | error f => exact ⟨.error rfl, h_going.split⟩
    | ok => exact Running.conclude_alike h limits program arguments arguments' h_read h_after

end Job

end ImageIntake
