/-
  ImageIntake.Proofs.Job.Stopping

  What comes of a reason to stop a run.  Until the first of them a run only reads
  (`Running.Unstopped`), and once its process has ended nothing is done to it any
  more (`Running.settled_watch`).  A reason that comes while the process still runs
  therefore kills its group and is the one reported; one that comes after the
  process has ended, while what it started still writes, does nothing at all
  (`run_stopped`).
-/

import ImageIntake.Proofs.Job.Output
import ImageIntake.Site

namespace ImageIntake.Job

open ImageIntake.Cancellation ImageIntake.Http

variable {σ : Type}

/-! ## Reasons -/

/-- The reason to stop a run that an event is, given whether there is a timer and a token. -/
def Event.reason? (timed held : Bool) : Event → Option Reason
  | .timeout => if timed then some .timedOut else none
  | .cancel => if held then some .cancelled else none
  | .output _ | .exit => none

/-- Whether an event is the end of the process. -/
def Event.isExit : Event → Bool
  | .exit => true
  | .output _ | .timeout | .cancel => false

/-- The event that is a turn of what happens early. -/
def Turn.event : Turn → Event
  | .cancel => .cancel
  | .timeout => .timeout
  | .exit => .exit

/-- An observer that keeps its token: what the run puts in force stays in force, and neither the
start nor a line nor a release of others touches it. -/
structure Observer.KeepsToken (obs : Observer σ) : Prop where
  set : ∀ token s, (obs.token s).isSome → obs.token (obs.setToken token s) = some token
  started : ∀ s, obs.token (obs.started s) = obs.token s
  line : ∀ line s, obs.token (obs.hand line s).2 = obs.token s
  release : ∀ hold s, obs.token (obs.release hold s) = obs.token s

namespace Running

/-! ## Letting events happen -/

/-- Lets so many events happen, unless there are fewer left or a line is not taken. -/
def advance (obs : Observer σ) (timed : Bool) : Nat → Running σ → Except Failure Unit × Running σ
  | 0, r => (.ok (), r)
  | count + 1, r =>
    match r.launcher.events with
    | [] => (.ok (), r)
    | event :: rest =>
      match { r with launcher := { r.launcher with events := rest } }.step obs timed event with
      | (.error f, r) => (.error f, r)
      | (.ok (), r) => advance obs timed count r

theorem watch_of_no_events {obs : Observer σ} {timed : Bool} {left : Nat} {r : Running σ}
    (h : r.launcher.events = []) :
    r.watch obs timed left = { r with unfinished := [] }.deliver obs (lastLine r.unfinished) := by
  cases left with
  | zero => rfl
  | succ left => rw [watch, h]

/-- Reading to the end goes through every number of events. -/
theorem watch_add (obs : Observer σ) (timed : Bool) (count left : Nat) (r : Running σ) :
    r.watch obs timed (left + count) =
      match r.advance obs timed count with
      | (.error f, r) => (.error f, r)
      | (.ok (), r) => r.watch obs timed left := by
  induction count generalizing r with
  | zero => rfl
  | succ count ih =>
    rw [← Nat.add_assoc, watch, advance]
    cases h_events : r.launcher.events with
    | nil => exact (watch_of_no_events h_events).symm
    | cons event rest =>
      dsimp only
      rcases step obs timed _ event with ⟨f | _, r'⟩
      · rfl
      · exact ih r'

/-! ## Lines -/

variable {obs : Observer σ}

/-- Handing lines on does nothing to the process and nothing to the token. -/
structure OnlyRead (obs : Observer σ) (r r' : Running σ) : Prop where
  launcher : r'.launcher = r.launcher
  status : r'.status = r.status
  reasons : r'.reasons = r.reasons
  token : obs.token r'.around = obs.token r.around

theorem onlyRead_deliver (h : obs.KeepsToken) (lines : List String) (r : Running σ) :
    OnlyRead obs r (r.deliver obs lines).2 := by
  induction lines generalizing r with
  | nil => exact ⟨rfl, rfl, rfl, rfl⟩
  | cons line rest ih =>
    have h_line := h.line line r.around
    unfold deliver
    rcases h_outcome : obs.hand line r.around with ⟨f | _, around⟩
    all_goals rw [h_outcome] at h_line
    · exact ⟨rfl, rfl, rfl, h_line⟩
    · obtain ⟨h_launcher, h_status, h_reasons, h_token⟩ :=
        ih { r with around, tail := keepLine r.tail line }
      exact ⟨h_launcher, h_status, h_reasons, h_token.trans h_line⟩

/-! ## Once the process has ended -/

/-- What stays of a run whose process has ended. -/
structure Settled (r r' : Running σ) : Prop where
  status : r'.status = r.status
  reasons : r'.reasons = r.reasons
  history : r'.launcher.history = r.launcher.history

theorem Settled.trans {r₁ r₂ r₃ : Running σ} (h₁ : Settled r₁ r₂) (h₂ : Settled r₂ r₃) :
    Settled r₁ r₃ :=
  ⟨h₂.status.trans h₁.status, h₂.reasons.trans h₁.reasons, h₂.history.trans h₁.history⟩

theorem stop_of_isSome {r : Running σ} (h : r.status.isSome = true) (reason : Reason) :
    r.stop reason = r := by
  unfold stop
  rw [Option.isNone_eq_false_iff.mpr h]
  rfl

theorem settled_step (h_obs : obs.KeepsToken) (timed : Bool) {r : Running σ} (event : Event)
    (h : r.status.isSome = true) : Settled r (r.step obs timed event).2 := by
  cases event with
  | output bytes =>
    obtain ⟨h_launcher, h_status, h_reasons, -⟩ :=
      onlyRead_deliver h_obs (takeLines r.unfinished bytes).1
        { r with unfinished := (takeLines r.unfinished bytes).2 }
    exact ⟨h_status, h_reasons, congrArg Launcher.history h_launcher⟩
  | exit =>
    obtain ⟨status, h_some⟩ := Option.isSome_iff_exists.mp h
    refine ⟨?_, rfl, rfl⟩
    rw [step, wait, h_some]
    rfl
  | timeout =>
    rw [step, stop_of_isSome h, ite_self]
    exact ⟨rfl, rfl, rfl⟩
  | cancel =>
    have h_stop := stop_of_isSome (r := { r with around := (obs.cancel r.around).2 }) h .cancelled
    rw [step]
    dsimp only
    rw [h_stop, ite_self]
    exact ⟨rfl, rfl, rfl⟩

/-- Reading to the end does nothing to a process that has ended. -/
theorem settled_watch (h_obs : obs.KeepsToken) (timed : Bool) (left : Nat) {r : Running σ}
    (h : r.status.isSome = true) : Settled r (r.watch obs timed left).2 := by
  have h_last (r : Running σ) : Settled r
      ({ r with unfinished := [] }.deliver obs (lastLine r.unfinished)).2 := by
    obtain ⟨h_launcher, h_status, h_reasons, -⟩ :=
      onlyRead_deliver h_obs (lastLine r.unfinished) { r with unfinished := [] }
    exact ⟨h_status, h_reasons, congrArg Launcher.history h_launcher⟩
  induction left generalizing r with
  | zero => exact h_last r
  | succ left ih =>
    unfold watch
    cases h_events : r.launcher.events with
    | nil => exact h_last r
    | cons event rest =>
      have h_step := settled_step h_obs timed
        (r := { r with launcher := { r.launcher with events := rest } }) event h
      have h_start : Settled r { r with launcher := { r.launcher with events := rest } } :=
        ⟨rfl, rfl, rfl⟩
      dsimp only
      split
      · rename_i h_after
        rw [h_after] at h_step
        exact h_start.trans h_step
      · rename_i r' h_after
        rw [h_after] at h_step
        have h_status : r'.status.isSome = true := by
          rw [h_step.status]
          exact h
        exact (h_start.trans h_step).trans (ih h_status)

/-! ## Before the first reason -/

/-- A run, begun with another, that had no reason to stop so far: the release of the run waits under
the token, if there is one, and the process has ended or not. -/
structure Unstopped (obs : Observer σ) (held exited : Bool) (begun r : Running σ) : Prop where
  reasons : r.reasons = []
  status : r.status = if exited then some begun.launcher.exitStatus else none
  history : r.launcher.history = begun.launcher.history
  exitStatus : r.launcher.exitStatus = begun.launcher.exitStatus
  killReply : r.launcher.killReply = begun.launcher.killReply
  held : (obs.token r.around).isSome = held
  waits : ∀ token, obs.token r.around = some token →
    token.cancelled = false ∧ .process ∈ token.pending

variable {held exited timed : Bool} {begun r : Running σ}

theorem Unstopped.onlyRead {r' : Running σ} (h : Unstopped obs held exited begun r)
    (h_read : OnlyRead obs r r') : Unstopped obs held exited begun r' := by
  obtain ⟨h_launcher, h_status, h_reasons, h_token⟩ := h_read
  refine ⟨?_, ?_, ?_, ?_, ?_, ?_, ?_⟩
  · rw [h_reasons, h.reasons]
  · rw [h_status, h.status]
  · rw [h_launcher, h.history]
  · rw [h_launcher, h.exitStatus]
  · rw [h_launcher, h.killReply]
  · rw [h_token, h.held]
  · rw [h_token]
    exact h.waits

/-- An event that is no reason to stop leaves the run as it was, but for the end of the process. -/
theorem Unstopped.step (h_obs : obs.KeepsToken) {event : Event}
    (h : Unstopped obs held exited begun r) (h_event : event.reason? timed held = none) :
    Unstopped obs held (exited || event.isExit) begun (r.step obs timed event).2 ∧
      (r.step obs timed event).2.launcher.events = r.launcher.events := by
  cases event with
  | output bytes =>
    rw [Event.isExit, Bool.or_false]
    have h_read := onlyRead_deliver h_obs (takeLines r.unfinished bytes).1
      { r with unfinished := (takeLines r.unfinished bytes).2 }
    have h_start : OnlyRead obs r { r with unfinished := (takeLines r.unfinished bytes).2 } :=
      ⟨rfl, rfl, rfl, rfl⟩
    exact ⟨(h.onlyRead h_start).onlyRead h_read, congrArg Launcher.events h_read.launcher⟩
  | exit =>
    rw [Event.isExit, Bool.or_true]
    refine ⟨⟨h.reasons, ?_, h.history, h.exitStatus, h.killReply, h.held, h.waits⟩, rfl⟩
    rw [Running.step, Running.wait, h.status, h.exitStatus]
    cases exited <;> rfl
  | timeout =>
    have h_untimed : timed = false := by
      cases timed with
      | false => rfl
      | true => cases h_event
    rw [Event.isExit, Bool.or_false, h_untimed]
    exact ⟨h, rfl⟩
  | cancel =>
    have h_none : obs.token r.around = none := by
      cases held with
      | false => exact Option.isNone_iff_eq_none.mp (Option.isSome_eq_false_iff.mp h.held)
      | true => cases h_event
    have h_cancel : obs.cancel r.around = (false, r.around) := by
      rw [Observer.cancel, h_none]
    rw [Event.isExit, Bool.or_false, Running.step, h_cancel]
    exact ⟨h, rfl⟩

/-- A run that is told of no reason to stop in so many events has none after them. -/
theorem Unstopped.advance (h_obs : obs.KeepsToken) {before after : List Event}
    (h : Unstopped obs held exited begun r) (h_events : r.launcher.events = before ++ after)
    (h_before : ∀ event ∈ before, event.reason? timed held = none)
    (h_took : (r.advance obs timed before.length).1 = .ok ()) :
    Unstopped obs held (exited || before.any Event.isExit) begun
        (r.advance obs timed before.length).2 ∧
      (r.advance obs timed before.length).2.launcher.events = after := by
  induction before generalizing r exited with
  | nil =>
    rw [List.any_nil, Bool.or_false]
    exact ⟨h, h_events⟩
  | cons event rest ih =>
    rw [List.length_cons, Running.advance, h_events, List.cons_append] at h_took ⊢
    dsimp only at h_took ⊢
    have h_popped : Unstopped obs held exited begun
        { r with launcher := { r.launcher with events := rest ++ after } } :=
      ⟨h.reasons, h.status, h.history, h.exitStatus, h.killReply, h.held, h.waits⟩
    obtain ⟨h_step, h_left⟩ := h_popped.step h_obs (h_before event List.mem_cons_self)
    split at h_took
    · cases h_took
    · rename_i r' h_after
      rw [h_after] at h_step h_left
      rw [List.any_cons, ← Bool.or_assoc]
      exact ih h_step h_left (fun other h_mem => h_before other (List.mem_cons_of_mem event h_mem))
        h_took

/-! ## The first reason -/

/-- What a reason does to a run whose process still runs. -/
structure Stopped (reason : Reason) (r r' : Running σ) : Prop where
  status : r.launcher.killReply.failure? = none → r'.status.isSome = true
  reasons : r'.reasons = r.reasons ++ [reason]
  history : r'.launcher.history =
    r.launcher.history ++ r.launcher.killReply.orders.map Act.signalled

theorem stopped_stop {r : Running σ} (h : r.status = none) (reason : Reason) :
    Stopped reason r (r.stop reason) := by
  unfold stop
  rw [h, Option.isNone_none, if_pos rfl]
  unfold signal
  cases h_reply : r.launcher.killReply
  all_goals
    refine ⟨?_, rfl, ?_⟩
    · rw [h_reply]
      first | exact fun _ => rfl | nofun
    · rw [h_reply]
      rfl

theorem Unstopped.step_stopped {event : Event} {reason : Reason}
    (h : Unstopped obs held false begun r) (h_event : event.reason? timed held = some reason) :
    (r.step obs timed event).1 = .ok () ∧ Stopped reason r (r.step obs timed event).2 := by
  have h_status : r.status = none := h.status
  cases event with
  | output bytes => cases h_event
  | exit => cases h_event
  | timeout =>
    cases timed with
    | false => cases h_event
    | true =>
      cases h_event
      exact ⟨rfl, stopped_stop h_status .timedOut⟩
  | cancel =>
    cases held with
    | false => cases h_event
    | true =>
      cases h_event
      obtain ⟨token, h_token⟩ := Option.isSome_iff_exists.mp h.held
      obtain ⟨h_uncancelled, h_pending⟩ := h.waits token h_token
      -- The release of the run is among those that the token hands out.
      have h_mine : (obs.cancel r.around).1 = true := by
        rw [Observer.cancel, h_token]
        dsimp only
        rw [Token.cancel, h_uncancelled]
        exact List.contains_iff_mem.mpr h_pending
      have h_stopped := stopped_stop (r := { r with around := (obs.cancel r.around).2 }) h_status
        .cancelled
      rw [Running.step]
      dsimp only
      rw [h_mine, if_pos rfl]
      exact ⟨rfl, h_stopped.status, h_stopped.reasons, h_stopped.history⟩

/-- The reason that comes next stops a run that had none so far. -/
theorem Unstopped.advance_stopped {event : Event} {after : List Event} {reason : Reason}
    (h : Unstopped obs held false begun r) (h_events : r.launcher.events = event :: after)
    (h_event : event.reason? timed held = some reason) :
    ∃ stopped, r.advance obs timed 1 = (.ok (), stopped) ∧
      (begun.launcher.killReply.failure? = none → stopped.status.isSome = true) ∧
      stopped.launcher.killReply = begun.launcher.killReply ∧ stopped.reasons = [reason] ∧
      stopped.launcher.history =
        begun.launcher.history ++ begun.launcher.killReply.orders.map Act.signalled := by
  have h_popped : Unstopped obs held false begun
      { r with launcher := { r.launcher with events := after } } :=
    ⟨h.reasons, h.status, h.history, h.exitStatus, h.killReply, h.held, h.waits⟩
  obtain ⟨h_step, h_stopped⟩ := h_popped.step_stopped h_event
  have h_grown := reasoned_step obs timed
    { r with launcher := { r.launcher with events := after } } event
  rcases h_after : Running.step obs timed
    { r with launcher := { r.launcher with events := after } } event with ⟨f | _, stopped⟩
  all_goals rw [h_after] at h_step h_stopped h_grown
  · cases h_step
  · refine ⟨stopped, ?_, ?_, h_grown.killReply.trans h_popped.killReply, ?_, ?_⟩
    · rw [Running.advance, h_events]
      dsimp only
      rw [h_after]
      rfl
    · rw [← h_popped.killReply]
      exact h_stopped.status
    · rw [h_stopped.reasons, h_popped.reasons, List.nil_append]
    · rw [h_stopped.history, h_popped.history, h_popped.killReply]

/-- A release that is registered in time waits. -/
theorem register_of_uncancelled {r : Running σ} (h : obs.cancelled r.around = false) :
    r.register obs =
      (.ok (), { r with around := obs.onToken (fun token => (token.register .process).1) r.around }) := by
  unfold Observer.cancelled at h
  unfold register Observer.onToken
  cases h_token : obs.token r.around with
  | none => rfl
  | some token =>
    rw [h_token, Option.any_some] at h
    have h_waits : (token.register .process).2 = false := by
      rw [Token.register, h]
      rfl
    dsimp only
    rw [h_waits]
    rfl

/-- Turns that are no reason to stop leave a run as it was, but for the end of the process. -/
theorem turns_of_no_reason {turns : List Turn}
    (h_turns : ∀ t ∈ turns, t.event.reason? timed held = none)
    (h_held : (obs.token r.around).isSome = held)
    (h_status : r.status = if exited then some r.launcher.exitStatus else none) :
    turns.foldl (turn obs timed) r =
      { r with
        status := if exited || (turns.map Turn.event).any Event.isExit then
          some r.launcher.exitStatus else none } := by
  induction turns generalizing r exited with
  | nil =>
    rw [List.map_nil, List.any_nil, Bool.or_false, ← h_status]
    rfl
  | cons t rest ih =>
    obtain ⟨h_first, h_rest⟩ := List.forall_mem_cons.mp h_turns
    rw [List.foldl_cons, List.map_cons, List.any_cons, ← Bool.or_assoc]
    cases t with
    | exit =>
      have h_ended : (r.wait).status = if exited || true then some r.launcher.exitStatus else none := by
        rw [wait, h_status]
        cases exited <;> rfl
      exact ih h_rest h_held h_ended
    | timeout =>
      have h_untimed : timed = false := by
        cases timed with
        | false => rfl
        | true => cases h_first
      have h_same : turn obs timed r .timeout = r := by
        rw [h_untimed]
        rfl
      rw [h_same, Turn.event, Event.isExit, Bool.or_false]
      exact ih h_rest h_held h_status
    | cancel =>
      have h_none : obs.token r.around = none := by
        cases held with
        | false => exact Option.isNone_iff_eq_none.mp (Option.isSome_eq_false_iff.mp h_held)
        | true => cases h_first
      have h_same : turn obs timed r .cancel = r := by
        rw [turn, Observer.cancel, h_none]
      rw [h_same, Turn.event, Event.isExit, Bool.or_false]
      exact ih h_rest h_held h_status

/-- Under an uncancelled token the release that is registered waits. -/
theorem waits_registered (h_obs : obs.KeepsToken) {s : σ} (h_cancelled : obs.cancelled s = false) :
    let registered := obs.onToken (fun token => (token.register .process).1) s
    (obs.token registered).isSome = (obs.token s).isSome ∧
      ∀ token, obs.token registered = some token →
        token.cancelled = false ∧ .process ∈ token.pending := by
  unfold Observer.onToken
  cases h_token : obs.token s with
  | none =>
    dsimp only
    rw [h_token]
    exact ⟨rfl, nofun⟩
  | some token =>
    have h_uncancelled : token.cancelled = false := by
      rw [Observer.cancelled, h_token] at h_cancelled
      exact h_cancelled
    dsimp only
    rw [h_obs.set _ _ (by rw [h_token]; rfl), Token.register, h_uncancelled]
    refine ⟨rfl, fun registered h_some => ?_⟩
    cases h_some
    exact ⟨rfl, List.mem_append_right _ List.mem_cons_self⟩

/-- A run that was set going, and told of no reason to stop meanwhile, has none so far. -/
theorem unstopped_setGoing (h_obs : obs.KeepsToken) (limits : Limits) (command : List String)
    {launcher : Launcher} {around : σ} (h_cancelled : obs.cancelled around = false)
    (h_overtaken : launcher.overtaken = true → obs.token around = none)
    (h_early : ∀ t ∈ launcher.early,
      t.event.reason? limits.wall.isSome (obs.token around).isSome = none) :
    let going := setGoing obs limits command launcher around
    going.1 = .ok () ∧ going.2.launcher = launcher.note (launchActs limits command) ∧
      Unstopped obs (obs.token around).isSome ((launcher.early.map Turn.event).any Event.isExit)
        going.2 going.2 := by
  have h_started := h_obs.started around
  have h_overtake : obs.overtake launcher around = around := by
    unfold Observer.overtake
    cases h_late : launcher.overtaken with
    | false => rfl
    | true => rw [if_pos rfl, Observer.cancel, h_overtaken h_late]
  let noted : Running σ :=
    { launcher := launcher.note (launchActs limits command), around := obs.started around }
  have h_begun : begun obs limits command launcher (obs.overtake launcher around) =
      { noted with
        status := if (launcher.early.map Turn.event).any Event.isExit then
          some launcher.exitStatus else none } := by
    rw [h_overtake]
    have h_held : (obs.token noted.around).isSome = (obs.token around).isSome :=
      congrArg Option.isSome h_started
    have h_status : noted.status = if false then some noted.launcher.exitStatus else none := rfl
    exact turns_of_no_reason h_early h_held h_status
  have h_still : obs.cancelled (obs.started around) = false := by
    unfold Observer.cancelled
    rw [h_started]
    exact h_cancelled
  have h_going : setGoing obs limits command launcher around = _ :=
    (congrArg (·.register obs) h_begun).trans (register_of_uncancelled h_still)
  obtain ⟨h_held, h_waits⟩ := waits_registered h_obs h_still
  rw [h_started] at h_held
  rw [h_going]
  exact ⟨rfl, rfl, rfl, rfl, rfl, rfl, rfl, h_held, h_waits⟩

/-! ## The end of a run -/

/-- A run whose process has ended gives no order in the end. -/
theorem finish_of_isSome (obs : Observer σ) (timed : Bool) {r : Running σ} (h : r.status.isSome = true) :
    (r.finish obs timed).1 = .ok () ∧ (r.finish obs timed).2.launcher.signals = r.launcher.signals := by
  obtain ⟨status, h_status⟩ := Option.isSome_iff_exists.mp h
  have h_letGo : (r.letGo obs timed).killRunning = (.ok (), r.letGo obs timed) := by
    unfold killRunning letGo
    rw [h_status]
    rfl
  unfold finish
  rw [h_letGo]
  refine ⟨rfl, ?_⟩
  unfold letGo reap
  cases timed <;> simp [wait, Launcher.signals, Launcher.note]

theorem signals_note_launchActs (limits : Limits) (command : List String) (launcher : Launcher) :
    (launcher.note (launchActs limits command)).signals = launcher.signals := by
  unfold Launcher.signals Launcher.note launchActs Limits.resources
  dsimp only
  rw [List.filterMap_append]
  cases limits.cpu <;> cases limits.addressSpace <;> cases limits.wall <;> simp

theorem signals_append {launcher launcher' : Launcher} {orders : List Signal}
    (h : launcher'.history = launcher.history ++ orders.map Act.signalled) :
    launcher'.signals = launcher.signals ++ orders := by
  unfold Launcher.signals
  rw [h, List.filterMap_append, List.filterMap_map]
  exact congrArg _ List.filterMap_some

theorem outcome_congr {r r' : Running σ} (h_reasons : r'.reasons = r.reasons)
    (h_status : r'.status = r.status) (program : String) (command : List String) :
    r'.outcome program command = { r with tail := r'.tail }.outcome program command := by
  unfold outcome
  rw [h_reasons, h_status]

section

variable (limits : Limits) (program : String) (arguments : List String) (left : Nat)

/-- What a run comes to that has got so far: no order is taken back, and it fails with a line that was
not taken or with a kill that was refused, or ends as the reasons and the status say. -/
theorem conclude_grown (obs : Observer σ) (r : Running σ) :
    let result := conclude obs limits program arguments (r.watch obs limits.wall.isSome left)
    r.launcher.signals <+: result.2.1.signals ∧
      ((∃ f, (obs.Refuses f ∨ r.launcher.killReply.failure? = some f) ∧ result.1 = .error f) ∨
        ∃ r', Grown r r' ∧ result.1 = r'.outcome program (program :: arguments)) := by
  have h_watched := (reasoned_watch obs limits.wall.isSome left r).toGrown
  dsimp only
  rcases h_watch : r.watch obs limits.wall.isSome left with ⟨f | _, r'⟩
  all_goals rw [h_watch] at h_watched
  · have h_finished := h_watched.trans (grown_finish obs limits.wall.isSome r')
    refine ⟨h_finished.signals, .inl ?_⟩
    rw [conclude_of_error rfl]
    dsimp only
    cases h_refusal : r'.refusal? with
    | none => exact ⟨f, .inl (refuses_of_watch (congrArg (·.1) h_watch)), rfl⟩
    | some g =>
      refine ⟨g, .inr ?_, rfl⟩
      unfold refusal? at h_refusal
      split at h_refusal
      · rw [← h_watched.killReply, h_refusal]
      · cases h_refusal
  · have h_waited : Grown r r'.wait :=
      h_watched.trans ⟨rfl, rfl, List.prefix_rfl, List.prefix_rfl⟩
    have h_finished := h_waited.trans (grown_finish obs limits.wall.isSome r'.wait)
    exact ⟨h_finished.signals, .inr ⟨_, h_finished, rfl⟩⟩

/-- What a run comes to whose process has ended: the failure of a line that was not taken, or what the
reasons and the status say. -/
theorem conclude_settled (h_obs : obs.KeepsToken) {r : Running σ} (h_status : r.status.isSome = true) :
    let result := conclude obs limits program arguments (r.watch obs limits.wall.isSome left)
    result.2.1.signals = r.launcher.signals ∧
      ((∃ f, obs.Refuses f ∧ result.1 = .error f) ∨
        ∃ tail, result.1 = { r with tail }.outcome program (program :: arguments)) := by
  obtain ⟨h_same, h_reasons, h_history⟩ :=
    settled_watch h_obs limits.wall.isSome left h_status
  have h_ended : (r.watch obs limits.wall.isSome left).2.status.isSome = true := by
    rw [h_same]
    exact h_status
  have h_signals : (r.watch obs limits.wall.isSome left).2.launcher.signals =
      r.launcher.signals := by
    unfold Launcher.signals
    rw [h_history]
  dsimp only
  rcases h_watch : r.watch obs limits.wall.isSome left with ⟨f | _, r'⟩
  all_goals
    rw [h_watch] at h_same h_reasons h_ended h_signals
    dsimp only at h_same h_reasons h_ended h_signals
    unfold conclude
    dsimp only
  · obtain ⟨h_closing, h_orders⟩ := finish_of_isSome obs limits.wall.isSome h_ended
    rw [h_orders, h_closing]
    exact ⟨h_signals, .inl ⟨f, refuses_of_watch (congrArg (·.1) h_watch), rfl⟩⟩
  · have h_wait : r'.wait.status.isSome = true := rfl
    obtain ⟨h_closing, h_orders⟩ := finish_of_isSome obs limits.wall.isSome h_wait
    obtain ⟨-, h_reasons', h_status', -⟩ := r'.finish_wait obs limits.wall.isSome
    obtain ⟨status, h_some⟩ := Option.isSome_iff_exists.mp h_ended
    have h_final : (r'.wait.finish obs limits.wall.isSome).2.status = r.status := by
      rw [h_status', ← h_same, h_some]
      rfl
    rw [h_orders, h_closing]
    exact ⟨h_signals, .inr ⟨r'.tail, outcome_congr (h_reasons'.trans h_reasons) h_final program _⟩⟩

/-- What a run comes to whose process still runs when the first reason comes. -/
theorem Unstopped.conclude_stopped (h_obs : obs.KeepsToken) {event : Event} {after : List Event}
    {reason : Reason} (h : Unstopped obs held false begun r)
    (h_events : r.launcher.events = event :: after)
    (h_event : event.reason? limits.wall.isSome held = some reason) :
    let result := conclude obs limits program arguments
      (r.watch obs limits.wall.isSome (after.length + 1))
    begun.launcher.signals ++ begun.launcher.killReply.orders <+: result.2.1.signals ∧
      (begun.launcher.killReply.failure? = none →
        result.2.1.signals = begun.launcher.signals ++ begun.launcher.killReply.orders) ∧
      ((∃ f, (obs.Refuses f ∨ begun.launcher.killReply.failure? = some f) ∧ result.1 = .error f) ∨
        ∃ status tail, result.1 = .error
          (ended (program :: arguments) (program ++ " " ++ reason.words) status tail none)) := by
  obtain ⟨stopped, h_one, h_status, h_same, h_reasons, h_history⟩ :=
    h.advance_stopped h_events h_event
  have h_orders := signals_append h_history
  rw [watch_add, h_one]
  obtain ⟨h_grown, h_outcome⟩ := conclude_grown limits program arguments after.length obs stopped
  rw [h_same] at h_outcome
  rw [h_orders] at h_grown
  refine ⟨h_grown, fun h_unrefused => ?_, h_outcome.imp_right ?_⟩
  · obtain ⟨h_settled, -⟩ :=
      conclude_settled limits program arguments after.length h_obs (h_status h_unrefused)
    exact h_settled.trans h_orders
  · -- Whatever reasons come later, this one is the first.
    rintro ⟨r', h_later, h_ended⟩
    obtain ⟨others, h_others⟩ := h_later.reasons
    rw [h_reasons] at h_others
    refine ⟨r'.status, r'.tail, h_ended.trans ?_⟩
    unfold outcome
    rw [← h_others]
    rfl

/-- What a run comes to whose process has ended before any reason has come. -/
theorem Unstopped.conclude_exited (h_obs : obs.KeepsToken) (h : Unstopped obs held true begun r) :
    let result := conclude obs limits program arguments (r.watch obs limits.wall.isSome left)
    result.2.1.signals = begun.launcher.signals ∧
      ((∃ f, obs.Refuses f ∧ result.1 = .error f) ∨
        ∃ tail : List String, result.1 =
          if begun.launcher.exitStatus = 0 then .ok (String.intercalate "\n" tail)
          else .error (ended (program :: arguments)
            (program ++ " exited with status " ++ toString begun.launcher.exitStatus ++ ": " ++
              tail.getLast?.getD "no output") (some begun.launcher.exitStatus) tail none)) := by
  have h_status : r.status = some begun.launcher.exitStatus := h.status
  have h_ended : r.status.isSome = true := by
    rw [h_status]
    rfl
  obtain ⟨h_orders, h_outcome⟩ := conclude_settled limits program arguments left h_obs h_ended
  refine ⟨h_orders.trans ?_, h_outcome.imp_right ?_⟩
  · unfold Launcher.signals
    rw [h.history]
  · rintro ⟨tail, h_tail⟩
    refine ⟨tail, h_tail.trans ?_⟩
    unfold outcome
    dsimp only
    rw [h.reasons, h_status]
    rfl

end

end Running

/-- A run whose process was started is told of its first reason to stop while its output is read,
every line before that having been taken.  If the process still runs, its
group is ordered to be killed at once, and the run does not end well: it fails for that reason, or
because of a line that was not taken, the process then being killed if it still runs.  That is the
only order, unless it is refused.  If the process has ended already, no order is given at all, and the
run ends as its exit status says. -/
theorem run_stopped {obs : Observer σ} (h_obs : obs.KeepsToken) {limits : Limits} {program : String}
    {arguments : List String} {launcher : Launcher} {around : σ} {before after : List Event}
    {event : Event} {reason : Reason} (h_cancelled : obs.cancelled around = false)
    (h_starts : launcher.Starts limits)
    (h_overtaken : launcher.overtaken = true → obs.token around = none)
    (h_events : launcher.events = before ++ event :: after)
    (h_before : ∀ e ∈ launcher.early.map Turn.event ++ before,
      e.reason? limits.wall.isSome (obs.token around).isSome = none)
    (h_event : event.reason? limits.wall.isSome (obs.token around).isSome = some reason)
    (h_took : ((Running.setGoing obs limits (program :: arguments) launcher around).2.advance obs
      limits.wall.isSome before.length).1 = .ok ()) :
    let result := run obs limits program arguments launcher around
    let exited := (launcher.early.map Turn.event ++ before).any Event.isExit
    (exited = false →
      launcher.signals ++ launcher.killReply.orders <+: result.2.1.signals ∧
      (launcher.killReply.failure? = none →
        result.2.1.signals = launcher.signals ++ launcher.killReply.orders) ∧
      ((∃ f, (obs.Refuses f ∨ launcher.killReply.failure? = some f) ∧ result.1 = .error f) ∨
        ∃ status tail, result.1 = .error
          (ended (program :: arguments) (program ++ " " ++ reason.words) status tail none))) ∧
    (exited = true →
      result.2.1.signals = launcher.signals ∧
      ((∃ f, obs.Refuses f ∧ result.1 = .error f) ∨
        ∃ tail : List String, result.1 =
          if launcher.exitStatus = 0 then .ok (String.intercalate "\n" tail)
          else .error (ended (program :: arguments)
            (program ++ " exited with status " ++ toString launcher.exitStatus ++ ": " ++
              tail.getLast?.getD "no output") (some launcher.exitStatus) tail none))) := by
  intro result exited
  obtain ⟨h_turns, h_read⟩ := List.forall_mem_append.mp h_before
  obtain ⟨h_going, h_noted, h_start⟩ := Running.unstopped_setGoing h_obs limits
    (program :: arguments) h_cancelled h_overtaken (List.forall_mem_map.mp h_turns)
  have h_result : result = Running.conclude obs limits program arguments
      (Running.read obs limits (program :: arguments) launcher around) :=
    run_of_going h_cancelled h_starts h_going
  unfold Running.read at h_result
  rcases h_set : Running.setGoing obs limits (program :: arguments) launcher around
    with ⟨outcome, going⟩
  rw [h_set] at h_noted h_start h_took h_result
  dsimp only at h_noted h_start h_took h_result
  have h_signals : going.launcher.signals = launcher.signals := by
    rw [h_noted]
    exact Running.signals_note_launchActs limits _ launcher
  have h_reply : going.launcher.killReply = launcher.killReply := by
    rw [h_noted]
    rfl
  have h_exit : going.launcher.exitStatus = launcher.exitStatus := by
    rw [h_noted]
    rfl
  have h_script : going.launcher.events = before ++ event :: after := by
    rw [h_noted]
    exact h_events
  have h_count : going.launcher.events.length = (after.length + 1) + before.length := by
    rw [h_script, List.length_append, List.length_cons, Nat.add_comm]
  -- Reading has come to the first reason, with none so far.
  obtain ⟨h_reached, h_left⟩ := h_start.advance h_obs h_script h_read h_took
  rcases h_advance : going.advance obs limits.wall.isSome before.length with ⟨f | _, r⟩
  all_goals rw [h_advance] at h_took h_reached h_left
  · cases h_took
  rw [h_count, Running.watch_add, h_advance] at h_result
  rw [← List.any_append] at h_reached
  rw [← h_signals, ← h_reply, ← h_exit, h_result]
  constructor
  · intro h_running
    rw [show List.any _ _ = false from h_running] at h_reached
    exact h_reached.conclude_stopped limits program arguments h_obs h_left h_event
  · intro h_exited
    rw [show List.any _ _ = true from h_exited] at h_reached
    exact h_reached.conclude_exited limits program arguments (after.length + 1) h_obs

/-- An observer that takes every line and has nothing around it but a token. -/
def quiet : Observer (Option (Token Hold)) where
  started := id
  line := some fun _ token => (.ok (), token)
  token := id
  setToken token _ := some token
  release _ token := token

theorem quiet_keepsToken : quiet.KeepsToken where
  set _ _ _ := rfl
  started _ := rfl
  line _ _ := rfl
  release _ _ := rfl

/-- A cancellation and then the timer, while the process still runs: the first is reported. -/
theorem cancelled_before_timeout :
    let launcher : Launcher :=
      { events := [.output [0x61, 0x0A], .cancel, .timeout, .output [0x62]], killReply := .gone }
    let result := run quiet { wall := some (.ofInt 5) } "c" [] launcher (some .fresh)
    result.2.1.signals = [.group] ∧
      ∃ status tail, result.1 = .error (ended ["c"] "c cancelled" status tail none) := by
  intro launcher result
  let limits : Limits := { wall := some (.ofInt 5) }
  have h_events : launcher.events =
      [.output [0x61, 0x0A]] ++ .cancel :: [.timeout, .output [0x62]] := rfl
  have h_before : ∀ e ∈ launcher.early.map Turn.event ++ [Event.output [0x61, 0x0A]],
      e.reason? limits.wall.isSome (quiet.token (some .fresh)).isSome = none := by
    intro e h_mem
    obtain rfl := List.mem_singleton.mp h_mem
    rfl
  have h_event : Event.cancel.reason? limits.wall.isSome (quiet.token (some .fresh)).isSome =
      some .cancelled := rfl
  have h_took : ((Running.setGoing quiet limits ["c"] launcher (some .fresh)).2.advance quiet
      limits.wall.isSome 1).1 = .ok () := rfl
  have h_overtaken (h_late : launcher.overtaken = true) : quiet.token (some .fresh) = none :=
    absurd h_late Bool.false_ne_true
  obtain ⟨-, h_signals, h_outcome⟩ :=
    (run_stopped quiet_keepsToken rfl ⟨rfl, fun _ => rfl⟩ h_overtaken h_events h_before h_event
      h_took).1 rfl
  refine ⟨h_signals rfl, ?_⟩
  rcases h_outcome with ⟨f, ⟨_, _, h_untaken⟩ | h_refused, -⟩ | h_failed
  · cases h_untaken
  · cases h_refused
  · exact h_failed

/-- The timer expires after the process has ended and before its output has: nothing is killed, and
the run ends well. -/
theorem timeout_after_exit :
    let launcher : Launcher := { events := [.exit, .timeout, .output [0x78]] }
    let result := run quiet { wall := some (.ofInt 5) } "c" [] launcher none
    result.2.1.signals = [] ∧ result.1 = .ok "x" := by
  intro launcher result
  have h_text : result.1.toOption = some "x" := by decide +kernel
  refine ⟨rfl, ?_⟩
  cases h_outcome : result.1 with
  | error f =>
    rw [h_outcome] at h_text
    cases h_text
  | ok text =>
    rw [h_outcome] at h_text
    exact congrArg Except.ok (Option.some.inj h_text)

end ImageIntake.Job

namespace ImageIntake.Site

/-- What a converter has to do with a site leaves the token alone. -/
theorem keepsToken_observer : (observer report).KeepsToken where
  set _ _ _ := rfl
  started _ := rfl
  line line site := by
    show some (report line site).2.feed.token = some site.feed.token
    unfold report
    split
    · rfl
    · dsimp only
      split <;> rfl
  release hold site := by
    cases hold with
    | process => rfl
    | reader =>
      show some site.feed.close.2.token = some site.feed.token
      unfold Feed.close
      split <;> rfl

end ImageIntake.Site
