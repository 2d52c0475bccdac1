/-
  ImageIntake.Proofs.Job.Output

  What a run reads of the output of its process.  An event is a piece of output or none
  (`Event.output?`), and a run reads piece by piece until a line is not taken or there is
  no more (`Running.pieces`).  Only a kill can leave less to read than was written: every
  step leaves all that there was, or nothing, and then it had a reason to kill
  (`Running.Reads`).  So what is read is a first part of what is written, and all of it
  in any other case (`Running.outputRead_written`).
-/

import ImageIntake.Proofs.Job.Lines
import ImageIntake.Proofs.Job.Success

namespace ImageIntake.Job

open ImageIntake.Cancellation ImageIntake.Http

variable {σ : Type}

/-! ## Events as output -/

/-- The output that an event is. -/
def Event.output? : Event → Option Bytes
  | .output bytes => some bytes
  | .cancel | .timeout | .exit => none

/-- The lines that an event completes behind an unfinished one, and what it leaves unfinished. -/
def Event.lines (unfinished : Bytes) : Event → List String × Bytes
  | .output bytes => takeLines unfinished bytes
  | .cancel | .timeout | .exit => ([], unfinished)

theorem linesBehind_event (unfinished : Bytes) (event : Event) (pieces : List Bytes) :
    linesBehind unfinished (event.output?.toList ++ pieces) =
      (event.lines unfinished).1 ++ linesBehind (event.lines unfinished).2 pieces := by
  cases event <;> rfl

/-- Whether a process is killed once the orders are given. -/
def KillReply.kills : KillReply → Bool
  | .done | .denied => true
  | .gone | .refused _ => false

/-- Whether a failure is one that a line was not taken with. -/
def Observer.Refuses (obs : Observer σ) (f : Failure) : Prop :=
  ∃ line s, (obs.hand line s).1 = .error f

namespace Running

variable {obs : Observer σ}

/-- The pieces of output that a run reads, `left` being the number of events that can still
come. -/
def pieces (obs : Observer σ) (timed : Bool) : (left : Nat) → Running σ → List Bytes
  | 0, _ => []
  | left + 1, r =>
    match r.launcher.events with
    | [] => []
    | event :: rest =>
      event.output?.toList ++
        match { r with launcher := { r.launcher with events := rest } }.step obs timed event with
        | (.error _, _) => []
        | (.ok (), r) => pieces obs timed left r

/-! ## Lines that are not taken -/

theorem refuses_of_deliver {lines : List String} {r : Running σ} {f : Failure}
    (h : (r.deliver obs lines).1 = .error f) : obs.Refuses f := by
  induction lines generalizing r with
  | nil => cases h
  | cons line rest ih =>
    unfold deliver at h
    rcases h_outcome : obs.hand line r.around with ⟨g | _, around⟩
    all_goals rw [h_outcome] at h
    · cases h
      exact ⟨line, r.around, by rw [h_outcome]⟩
    · exact ih h

theorem refuses_of_step {timed : Bool} {r : Running σ} {event : Event} {f : Failure}
    (h : (r.step obs timed event).1 = .error f) : obs.Refuses f := by
  cases event with
  | output bytes => exact refuses_of_deliver h
  | exit => cases h
  | timeout => cases h
  | cancel => cases h

theorem refuses_of_watch {timed : Bool} {left : Nat} {r : Running σ} {f : Failure}
    (h : (r.watch obs timed left).1 = .error f) : obs.Refuses f := by
  induction left generalizing r with
  | zero => exact refuses_of_deliver h
  | succ left ih =>
    unfold watch at h
    cases h_events : r.launcher.events with
    | nil =>
      rw [h_events] at h
      exact refuses_of_deliver h
    | cons event rest =>
      rw [h_events] at h
      dsimp only at h
      split at h
      · rename_i h_step
        cases h
        exact refuses_of_step (congrArg (·.1) h_step)
      · exact ih h

/-! ## What is left alone -/

theorem signal_keeps_output (r : Running σ) :
    r.signal.unfinished = r.unfinished ∧ r.signal.tail = r.tail := by
  unfold signal
  dsimp only
  split <;> exact ⟨rfl, rfl⟩

theorem stop_keeps_output (r : Running σ) (reason : Reason) :
    (r.stop reason).unfinished = r.unfinished ∧ (r.stop reason).tail = r.tail := by
  unfold stop
  split
  · exact signal_keeps_output { r with reasons := r.reasons ++ [reason] }
  · exact ⟨rfl, rfl⟩

/-- Handing lines on leaves alone what is still to be read and why a process was killed. -/
theorem deliver_leaves (obs : Observer σ) (lines : List String) (r : Running σ) :
    (r.deliver obs lines).2.unfinished = r.unfinished ∧
    (r.deliver obs lines).2.launcher = r.launcher ∧
    (r.deliver obs lines).2.reasons = r.reasons := by
  induction lines generalizing r with
  | nil => exact ⟨rfl, rfl, rfl⟩
  | cons line rest ih =>
    rw [deliver]
    rcases obs.hand line r.around with ⟨f | _, around⟩
    · exact ⟨rfl, rfl, rfl⟩
    · exact ih { r with around, tail := keepLine r.tail line }

/-! ## All of the output -/

/-- Whether all of the output of a run can be read: there is more to read of a killed process, or no
order kills it, or there was no reason to. -/
def ReadsOn (launcher : Launcher) (reasons : List Reason) : Prop :=
  launcher.lingers = true ∨ launcher.killReply.kills = false ∨ reasons = []

/-- What a part of a run leaves to read: all that there was, or nothing any more. -/
structure Reads (r r' : Running σ) : Prop extends Reasoned r r' where
  events : r'.launcher.events = r.launcher.events ∨
    r'.launcher.events = [] ∧ ¬ReadsOn r.launcher r'.reasons

theorem Reads.rfl {r : Running σ} : Reads r r := ⟨.rfl, .inl (Eq.refl _)⟩

/-- Reasons are never taken back, so that what two parts of a run leave is all that there was, or
there was a reason to kill. -/
theorem Reads.trans {r₁ r₂ r₃ : Running σ} (h₁ : Reads r₁ r₂) (h₂ : Reads r₂ r₃) : Reads r₁ r₃ := by
  refine ⟨h₁.toReasoned.trans h₂.toReasoned, ?_⟩
  have h_same (reasons : List Reason) :
      ReadsOn r₂.launcher reasons ↔ ReadsOn r₁.launcher reasons := by
    unfold ReadsOn
    rw [h₁.killReply, h₁.lingers]
  rcases h₂.events with h_all | ⟨h_none, h_killed⟩
  · rcases h₁.events with h_first | ⟨h_none, h_killed⟩
    · exact .inl (h_all.trans h_first)
    · refine .inr ⟨h_all.trans h_none, fun h_on => h_killed ?_⟩
      exact h_on.imp_right (Or.imp_right fun h => (h₂.of_nil h).1)
  · exact .inr ⟨h_none, fun h_on => h_killed ((h_same _).mpr h_on)⟩

theorem reads_signal (r : Running σ) (reason : Reason) :
    Reads r { r with reasons := r.reasons ++ [reason] }.signal := by
  refine ⟨reasoned_signal r reason, ?_⟩
  unfold signal
  cases h_reply : r.launcher.killReply with
  | gone | refused f => exact .inl rfl
  | done | denied =>
    cases h_lingers : r.launcher.lingers with
    | true => exact .inl (by simp [Launcher.remains, Launcher.note, h_lingers])
    | false =>
      refine .inr ⟨by simp [Launcher.remains, Launcher.note, h_lingers], ?_⟩
      rintro (h_more | h_spared | h_none)
      · rw [h_lingers] at h_more
        cases h_more
      · rw [h_reply] at h_spared
        cases h_spared
      · exact List.append_ne_nil_of_right_ne_nil _ (List.cons_ne_nil _ _) h_none

theorem reads_stop (r : Running σ) (reason : Reason) : Reads r (r.stop reason) := by
  unfold stop
  split
  · exact reads_signal r reason
  · exact .rfl

theorem reads_around (r : Running σ) (around : σ) : Reads r { r with around } :=
  ⟨reasoned_around r around, .inl rfl⟩

theorem reads_turn (obs : Observer σ) (timed : Bool) (r : Running σ) (turn : Turn) :
    Reads r (r.turn obs timed turn) := by
  refine ⟨reasoned_turn obs timed r turn, ?_⟩
  cases turn with
  | exit => exact .inl rfl
  | timeout =>
    unfold Running.turn
    dsimp only
    split
    · exact (reads_stop r .timedOut).events
    · exact .inl rfl
  | cancel => exact .inl rfl

theorem reads_register (obs : Observer σ) (r : Running σ) : Reads r (r.register obs).2 := by
  unfold register
  split
  · exact .rfl
  · rename_i token _
    have h_set := reads_around r (obs.setToken (token.register .process).1 r.around)
    dsimp only
    split
    · rw [kill_snd]
      exact h_set.trans (reads_signal _ .cancelled)
    · exact h_set

theorem reads_step (obs : Observer σ) (timed : Bool) (r : Running σ) (event : Event) :
    Reads r (r.step obs timed event).2 := by
  refine ⟨reasoned_step obs timed r event, ?_⟩
  cases event with
  | output bytes =>
    obtain ⟨-, h_launcher, -⟩ := deliver_leaves obs (takeLines r.unfinished bytes).1
      { r with unfinished := (takeLines r.unfinished bytes).2 }
    exact .inl (congrArg Launcher.events h_launcher)
  | exit => exact .inl rfl
  | timeout =>
    unfold step
    dsimp only
    split
    · exact (reads_stop r .timedOut).events
    · exact .inl rfl
  | cancel =>
    unfold step
    dsimp only
    split
    · exact ((reads_around r _).trans (reads_stop _ .cancelled)).events
    · exact .inl rfl

theorem filterMap_output?_cons (event : Event) (rest : List Event) :
    (event :: rest).filterMap Event.output? =
      event.output?.toList ++ rest.filterMap Event.output? := by
  cases event <;> rfl

/-- What is read is a first part of the output. -/
theorem pieces_isPrefix (obs : Observer σ) (timed : Bool) (left : Nat) (r : Running σ) :
    r.pieces obs timed left <+: r.launcher.events.filterMap Event.output? := by
  induction left generalizing r with
  | zero => exact List.nil_prefix
  | succ left ih =>
    unfold pieces
    cases h_events : r.launcher.events with
    | nil => exact List.nil_prefix
    | cons event rest =>
      have h_reads :=
        reads_step obs timed { r with launcher := { r.launcher with events := rest } } event
      rw [filterMap_output?_cons]
      dsimp only
      rw [List.prefix_append_right_inj]
      rcases h_after : step obs timed
        { r with launcher := { r.launcher with events := rest } } event with ⟨f | _, r'⟩
      · exact List.nil_prefix
      · rw [h_after] at h_reads
        have h_pieces := ih r'
        rcases h_reads.events with h_all | ⟨h_none, -⟩
        · rw [h_all] at h_pieces
          exact h_pieces
        · rw [h_none] at h_pieces
          exact h_pieces.trans List.nil_prefix

/-- It is all of the output where every line is taken and it can be read on. -/
theorem pieces_eq {obs : Observer σ} {timed : Bool} {left : Nat} {r : Running σ}
    (h_left : r.launcher.events.length ≤ left) (h_taken : (r.watch obs timed left).1 = .ok ())
    (h_alive : ReadsOn r.launcher (r.watch obs timed left).2.reasons) :
    r.pieces obs timed left = r.launcher.events.filterMap Event.output? := by
  induction left generalizing r with
  | zero => rw [List.length_eq_zero_iff.mp (Nat.le_zero.mp h_left), pieces, List.filterMap_nil]
  | succ left ih =>
    unfold watch at h_taken h_alive
    unfold pieces
    cases h_events : r.launcher.events with
    | nil => rfl
    | cons event rest =>
      have h_reads :=
        reads_step obs timed { r with launcher := { r.launcher with events := rest } } event
      rw [h_events] at h_taken h_alive h_left
      rw [filterMap_output?_cons]
      dsimp only at h_taken h_alive ⊢
      rw [List.append_cancel_left_eq]
      rcases h_after : step obs timed
        { r with launcher := { r.launcher with events := rest } } event with ⟨f | _, r'⟩
      all_goals rw [h_after] at h_taken h_alive h_reads
      · cases h_taken
      · rcases h_reads.events with h_all | ⟨-, h_killed⟩
        · have h_fewer : r'.launcher.events.length ≤ left := by
            rw [h_all]
            exact Nat.le_of_succ_le_succ h_left
          have h_on : ReadsOn r'.launcher (r'.watch obs timed left).2.reasons := by
            unfold ReadsOn
            rw [h_reads.killReply, h_reads.lingers]
            exact h_alive
          have h_pieces := ih h_fewer h_taken h_on
          exact h_pieces.trans (congrArg (List.filterMap Event.output?) h_all)
        · -- A process that was killed had a reason to be, and a reason is never taken back.
          exact absurd (h_alive.imp_right (Or.imp_right fun h =>
            ((reasoned_watch obs timed left r').of_nil h).1)) h_killed

/-- A process that only writes is not killed. -/
theorem reasons_of_outputs (obs : Observer σ) (timed : Bool) (left : Nat) {r : Running σ}
    (pieces : List Bytes) (h_events : r.launcher.events = pieces.map .output) :
    (r.watch obs timed left).2.reasons = r.reasons := by
  induction left generalizing r pieces with
  | zero => exact (deliver_leaves obs _ { r with unfinished := [] }).2.2
  | succ left ih =>
    unfold watch
    rw [h_events]
    cases pieces with
    | nil => exact (deliver_leaves obs _ { r with unfinished := [] }).2.2
    | cons piece rest =>
      rw [List.map_cons]
      dsimp only
      rw [step]
      obtain ⟨-, h_launcher, h_reasons⟩ := deliver_leaves obs (takeLines r.unfinished piece).1
        { r with
          launcher := { r.launcher with events := rest.map .output }
          unfinished := (takeLines r.unfinished piece).2 }
      dsimp only
      split
      · rename_i h_after
        rw [h_after] at h_reasons
        exact h_reasons
      · rename_i h_after
        rw [h_after] at h_launcher h_reasons
        rw [ih rest (congrArg Launcher.events h_launcher)]
        exact h_reasons

/-! ## From the start -/

/-- The output that is read of a process that was started. -/
def outputRead (obs : Observer σ) (limits : Limits) (command : List String) (launcher : Launcher)
    (around : σ) : List Bytes :=
  let r := (setGoing obs limits command launcher around).2
  r.pieces obs limits.wall.isSome r.launcher.events.length

/-- Before a run reads, it has read nothing. -/
theorem setGoing_reads_nothing (obs : Observer σ) (limits : Limits) (command : List String)
    (launcher : Launcher) (around : σ) :
    (setGoing obs limits command launcher around).2.unfinished = [] ∧
      (setGoing obs limits command launcher around).2.tail = [] := by
  have h_turn (r : Running σ) (turn : Turn) (h : r.unfinished = [] ∧ r.tail = []) :
      (r.turn obs limits.wall.isSome turn).unfinished = [] ∧
        (r.turn obs limits.wall.isSome turn).tail = [] := by
    cases turn with
    | exit => exact h
    | timeout =>
      unfold Running.turn
      dsimp only
      split
      · rw [(r.stop_keeps_output .timedOut).1, (r.stop_keeps_output .timedOut).2]
        exact h
      · exact h
    | cancel => exact h
  have h_begun :
      (begun obs limits command launcher (obs.overtake launcher around)).unfinished = [] ∧
        (begun obs limits command launcher (obs.overtake launcher around)).tail = [] :=
    begun_induct (P := fun r => r.unfinished = [] ∧ r.tail = []) h_turn ⟨rfl, rfl⟩
  unfold setGoing register
  split
  · exact h_begun
  · dsimp only
    split
    · rw [kill_snd, (signal_keeps_output _).1, (signal_keeps_output _).2]
      exact h_begun
    · exact h_begun

/-- What is read of a process is a first part of what it writes, and all of it where every line is
taken and it can be read on. -/
theorem outputRead_written (obs : Observer σ) (limits : Limits) (command : List String)
    (launcher : Launcher) (around : σ) :
    outputRead obs limits command launcher around <+: launcher.events.filterMap Event.output? ∧
    ((read obs limits command launcher around).1 = .ok () →
      ReadsOn launcher (read obs limits command launcher around).2.reasons →
      outputRead obs limits command launcher around =
        launcher.events.filterMap Event.output?) := by
  have h_reads : Reads (started obs limits command launcher (obs.overtake launcher around))
      (setGoing obs limits command launcher around).2 := by
    have h_begun : Reads (started obs limits command launcher (obs.overtake launcher around))
        (begun obs limits command launcher (obs.overtake launcher around)) :=
      begun_induct (fun r turn h => h.trans (reads_turn obs _ r turn)) .rfl
    exact h_begun.trans (reads_register obs _)
  have h_reply : (setGoing obs limits command launcher around).2.launcher.killReply =
      launcher.killReply := h_reads.killReply
  have h_lingers : (setGoing obs limits command launcher around).2.launcher.lingers =
      launcher.lingers := h_reads.lingers
  have h_first : outputRead obs limits command launcher around <+: _ := pieces_isPrefix obs _ _ _
  constructor
  · rcases h_reads.events with h_all | ⟨h_none, -⟩
    · rw [h_all] at h_first
      exact h_first
    · rw [h_none] at h_first
      exact h_first.trans List.nil_prefix
  · intro h_taken h_on
    rcases h_reads.events with h_all | ⟨-, h_killed⟩
    · have h_script : launcher.events = (setGoing obs limits command launcher around).2.launcher.events :=
        h_all.symm
      rw [h_script]
      refine pieces_eq (Nat.le_refl _) h_taken ?_
      unfold ReadsOn
      rw [h_reply, h_lingers]
      exact h_on
    · exact absurd (h_on.imp_right (Or.imp_right fun h =>
        ((reasoned_watch obs _ _ _).of_nil h).1)) h_killed

end Running

end ImageIntake.Job
