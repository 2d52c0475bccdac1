/-
  ImageIntake.Proofs.Job.Telling

  What a run tells of the output of its process.  An observer who listens in notes every
  line together with what came of it, and is otherwise the observer it was
  (`run_listening`).  The notes are the lines in order, up to the first one that is not
  taken (`Telling`): one event adds the lines it completes (`step_heard`), hence reading
  to the end tells the lines of all that was read (`watch_heard`).  What is kept of them
  for the outcome are the last ones (`foldl_keepLine`).
-/

import Mathlib.Data.List.Induction
import ImageIntake.Proofs.Job.Keeping
import ImageIntake.Proofs.Job.Output

namespace ImageIntake.Job

open ImageIntake.Cancellation ImageIntake.Http

variable {σ : Type}

/-! ## Telling lines -/

/-- A line that was told, with what came of it. -/
abbrev Told := String × Except Failure Unit

/-- Lines are told in order, each once, until one is not taken; that ends it. -/
inductive Telling : List String → Except Failure Unit → List Told → Prop where
  | done : Telling [] (.ok ()) []
  | taken (line : String) {rest : List String} {outcome : Except Failure Unit} {told : List Told} :
    Telling rest outcome told → Telling (line :: rest) outcome ((line, .ok ()) :: told)
  | refused (line : String) (rest : List String) (f : Failure) :
    Telling (line :: rest) (.error f) [(line, .error f)]

namespace Telling

variable {lines more : List String} {outcome : Except Failure Unit} {told told' : List Told}

theorem append (h : Telling lines (.ok ()) told) (h_more : Telling more outcome told') :
    Telling (lines ++ more) outcome (told ++ told') := by
  generalize h_outcome : Except.ok () = first at h
  induction h with
  | done => exact h_more
  | taken line _ ih => exact .taken line (ih h_outcome)
  | refused line rest f => cases h_outcome

/-- Once a line was not taken, the lines behind it do not matter. -/
theorem append_refused {f : Failure} (h : Telling lines (.error f) told) (more : List String) :
    Telling (lines ++ more) (.error f) told := by
  generalize h_outcome : Except.error f = outcome at h
  induction h with
  | done => cases h_outcome
  | taken line _ ih => exact .taken line (ih h_outcome)
  | refused line rest g => exact .refused line (rest ++ more) g

theorem lines_of_taken (h : Telling lines outcome told) (h_taken : ∀ t ∈ told, t.2 = .ok ()) :
    outcome = .ok () ∧ told.map Prod.fst = lines := by
  induction h with
  | done => exact ⟨rfl, rfl⟩
  | taken line _ ih =>
    obtain ⟨h_outcome, h_lines⟩ := ih fun t h_mem => h_taken t (List.mem_cons_of_mem _ h_mem)
    exact ⟨h_outcome, congrArg (line :: ·) h_lines⟩
  | refused line rest f => cases h_taken _ List.mem_cons_self

/-- A line that is not taken is the last one told. -/
theorem lines_of_refused (h : Telling lines outcome told) {k : Nat} {line : String} {f : Failure}
    (h_refused : told[k]? = some (line, .error f)) :
    outcome = .error f ∧ told.map Prod.fst = lines.take (k + 1) := by
  induction h generalizing k with
  | done => cases h_refused
  | taken first _ ih =>
    cases k with
    | zero => cases h_refused
    | succ k =>
      obtain ⟨h_outcome, h_lines⟩ := ih h_refused
      exact ⟨h_outcome, congrArg (first :: ·) h_lines⟩
  | refused first rest g =>
    cases k with
    | zero =>
      cases h_refused
      exact ⟨rfl, rfl⟩
    | succ k => cases h_refused

end Telling

/-! ## Listening in -/

/-- An observer who listens in: it notes each line that is handed on and what came of it. -/
def Observer.listening (obs : Observer σ) : Observer (σ × List Told) where
  started s := (obs.started s.1, s.2)
  line := obs.line.map fun take line s =>
    let (outcome, around) := take line s.1
    (outcome, around, s.2 ++ [(line, outcome)])
  token s := obs.token s.1
  setToken token s := (obs.setToken token s.1, s.2)
  release hold s := (obs.release hold s.1, s.2)

section

variable (obs : Observer σ) (s : σ) (log : List Told)

theorem listening_hand (line : String) (h_calls : obs.line.isSome = true) :
    obs.listening.hand line (s, log) =
      ((obs.hand line s).1, (obs.hand line s).2, log ++ [(line, (obs.hand line s).1)]) := by
  obtain ⟨take, h_take⟩ := Option.isSome_iff_exists.mp h_calls
  unfold Observer.hand Observer.listening
  rw [h_take]
  rfl

theorem listening_onToken (change : Token Hold → Token Hold) :
    obs.listening.onToken change (s, log) = (obs.onToken change s, log) := by
  have h_token : obs.listening.token (s, log) = obs.token s := rfl
  unfold Observer.onToken
  rw [h_token]
  cases obs.token s <;> rfl

theorem listening_cancel :
    obs.listening.cancel (s, log) = ((obs.cancel s).1, (obs.cancel s).2, log) := by
  have h_releases (holds : List Hold) (s : σ) :
      holds.foldl (fun s hold => obs.listening.release hold s) (s, log) =
        (holds.foldl (fun s hold => obs.release hold s) s, log) := by
    induction holds generalizing s with
    | nil => rfl
    | cons hold rest ih => exact ih (obs.release hold s)
  have h_token : obs.listening.token (s, log) = obs.token s := rfl
  unfold Observer.cancel
  rw [h_token]
  cases obs.token s with
  | none => rfl
  | some token => exact congrArg (Prod.mk _) (h_releases _ _)

theorem listening_overtake (launcher : Launcher) :
    obs.listening.overtake launcher (s, log) = (obs.overtake launcher s, log) := by
  unfold Observer.overtake
  rw [listening_cancel]
  split <;> rfl

end

namespace Running

/-- The run as one who listens in sees it, with what was noted so far. -/
def heard (log : List Told) (r : Running σ) : Running (σ × List Told) where
  launcher := r.launcher
  around := (r.around, log)
  status := r.status
  reasons := r.reasons
  unfinished := r.unfinished
  tail := r.tail

theorem signal_heard (r : Running σ) (log : List Told) :
    (r.heard log).signal = r.signal.heard log := by
  have h_reply : (r.heard log).launcher.killReply = r.launcher.killReply := rfl
  unfold signal
  rw [h_reply]
  cases r.launcher.killReply <;> rfl

theorem stop_heard (r : Running σ) (log : List Told) (reason : Reason) :
    (r.heard log).stop reason = (r.stop reason).heard log := by
  unfold stop
  show (if r.status.isNone then _ else _) = _
  split
  · exact signal_heard { r with reasons := r.reasons ++ [reason] } log
  · rfl

theorem kill_heard (r : Running σ) (log : List Told) :
    (r.heard log).kill = (r.kill.1, r.kill.2.heard log) := by
  have h_reply : (r.heard log).launcher.killReply = r.launcher.killReply := rfl
  unfold kill
  rw [h_reply, signal_heard]
  split <;> rfl

theorem turn_heard (obs : Observer σ) (timed : Bool) (r : Running σ) (log : List Told) (turn : Turn) :
    (r.heard log).turn obs.listening timed turn = (r.turn obs timed turn).heard log := by
  cases turn with
  | exit => rfl
  | timeout =>
    have h_stop := stop_heard r log .timedOut
    unfold Running.turn
    dsimp only
    rw [h_stop]
    split <;> rfl
  | cancel =>
    have h_around : (r.heard log).around = (r.around, log) := rfl
    unfold Running.turn
    dsimp only
    rw [h_around, listening_cancel]
    rfl

theorem begun_heard (obs : Observer σ) (limits : Limits) (command : List String)
    (launcher : Launcher) (around : σ) (log : List Told) :
    begun obs.listening limits command launcher (around, log) =
      (begun obs limits command launcher around).heard log := by
  have h_turns (turns : List Turn) (r : Running σ) :
      turns.foldl (turn obs.listening limits.wall.isSome) (r.heard log) =
        (turns.foldl (turn obs limits.wall.isSome) r).heard log := by
    induction turns generalizing r with
    | nil => rfl
    | cons turn rest ih => rw [List.foldl_cons, turn_heard, ih, List.foldl_cons]
  exact h_turns launcher.early (started obs limits command launcher around)

theorem register_heard (obs : Observer σ) (r : Running σ) (log : List Told) :
    (r.heard log).register obs.listening = ((r.register obs).1, (r.register obs).2.heard log) := by
  have h_token : obs.listening.token (r.heard log).around = obs.token r.around := rfl
  unfold register
  rw [h_token]
  cases obs.token r.around with
  | none => rfl
  | some token =>
    have h_status : (r.heard log).status = r.status := rfl
    dsimp only
    rw [h_status]
    split
    · exact kill_heard { r with
        around := obs.setToken (token.register .process).1 r.around
        reasons := r.reasons ++ [.cancelled] } log
    · rfl

theorem setGoing_heard (obs : Observer σ) (limits : Limits) (command : List String)
    (launcher : Launcher) (around : σ) :
    setGoing obs.listening limits command launcher (around, []) =
      ((setGoing obs limits command launcher around).1,
        (setGoing obs limits command launcher around).2.heard []) := by
  unfold setGoing
  rw [listening_overtake, begun_heard, register_heard]

theorem killRunning_heard (r : Running σ) (log : List Told) :
    (r.heard log).killRunning = (r.killRunning.1, r.killRunning.2.heard log) := by
  have h_status : (r.heard log).status = r.status := rfl
  unfold killRunning
  rw [h_status]
  split
  · exact kill_heard r log
  · rfl

theorem finish_heard (obs : Observer σ) (timed : Bool) (r : Running σ) (log : List Told) :
    (r.heard log).finish obs.listening timed =
      ((r.finish obs timed).1, (r.finish obs timed).2.heard log) := by
  have h_letGo : (r.heard log).letGo obs.listening timed = (r.letGo obs timed).heard log := by
    have h_around : (r.heard log).around = (r.around, log) := rfl
    unfold letGo
    rw [h_around, listening_onToken]
    rfl
  unfold finish
  rw [h_letGo, killRunning_heard]
  rcases (r.letGo obs timed).killRunning with ⟨f | _, r'⟩ <;> rfl

theorem conclude_heard (obs : Observer σ) (limits : Limits) (program : String)
    (arguments : List String) (read : Except Failure Unit × Running σ) (log : List Told) :
    conclude obs.listening limits program arguments (read.1, read.2.heard log) =
      ((conclude obs limits program arguments read).1,
        (conclude obs limits program arguments read).2.1,
        (conclude obs limits program arguments read).2.2, log) := by
  obtain ⟨f | _, r⟩ := read
  all_goals unfold conclude; dsimp only
  · rw [finish_heard]
    rfl
  · have h_wait : (r.heard log).wait = r.wait.heard log := rfl
    rw [h_wait, finish_heard]
    rfl

end Running

/-! ## What is kept -/

/-- Of all lines the last ones are kept. -/
theorem foldl_keepLine (lines : List String) :
    lines.foldl keepLine [] = lines.drop (lines.length - tailLength) := by
  induction lines using List.reverseRecOn with
  | nil => rfl
  | append_singleton lines line ih =>
    -- The lines that were kept already lose at most their first.
    rw [List.foldl_append, ih, List.foldl_cons, List.foldl_nil]
    unfold keepLine
    dsimp only
    rw [← List.drop_append_of_le_length (by omega), List.drop_drop]
    congr 1
    simp only [List.length_drop, List.length_append, List.length_singleton]
    omega

theorem getLast?_kept (lines : List String) :
    (lines.drop (lines.length - tailLength)).getLast? = lines.getLast? := by
  have h_length : 0 < tailLength := by decide
  rw [List.getLast?_drop]
  split
  · have h_empty : lines.length = 0 := by omega
    rw [List.length_eq_zero_iff.mp h_empty, List.getLast?_nil]
  · rfl

/-! ## What is read -/

namespace Running

/-- What one who listens in gathers of a part of a run, with how that part ends: it is told the
lines and the run keeps the last of them. -/
def Heard (lines : List String) (log : List Told) (r : Running σ)
    (ended : Except Failure Unit × Running σ)
    (heard : Except Failure Unit × Running (σ × List Told)) : Prop :=
  ∃ told, heard = (ended.1, ended.2.heard (log ++ told)) ∧ Telling lines ended.1 told ∧
    ended.2.tail = (told.map Prod.fst).foldl keepLine r.tail

theorem deliver_heard (h_calls : obs.line.isSome = true) (lines : List String) (r : Running σ)
    (log : List Told) :
    Heard lines log r (r.deliver obs lines) ((r.heard log).deliver obs.listening lines) := by
  induction lines generalizing r log with
  | nil => exact ⟨[], by rw [List.append_nil]; rfl, .done, rfl⟩
  | cons line rest ih =>
    rcases h_line : obs.hand line r.around with ⟨outcome, around⟩
    have h_hears : obs.listening.hand line (r.heard log).around =
        (outcome, around, log ++ [(line, outcome)]) := by
      have h_around : (r.heard log).around = (r.around, log) := rfl
      rw [h_around, listening_hand obs r.around log line h_calls, h_line]
    rw [deliver, deliver, h_line, h_hears]
    cases outcome with
    | error f => exact ⟨[(line, .error f)], rfl, .refused line rest f, rfl⟩
    | ok =>
      obtain ⟨told, h_heard, h_told, h_tail⟩ :=
        ih { r with around, tail := keepLine r.tail line } (log ++ [(line, .ok ())])
      rw [List.append_assoc] at h_heard
      exact ⟨(line, .ok ()) :: told, h_heard, .taken line h_told, h_tail⟩

theorem Heard.nothing {log : List Told} {r r' : Running σ} (h_tail : r'.tail = r.tail) :
    Heard [] log r (.ok (), r') (.ok (), r'.heard log) :=
  ⟨[], by rw [List.append_nil], .done, h_tail⟩

/-- What is gathered of two parts of a run, one behind the other. -/
theorem Heard.append {lines more : List String} {log : List Told} {r r' : Running σ}
    {heard : Except Failure Unit × Running (σ × List Told)}
    {ended : Except Failure Unit × Running σ}
    (goesOn : Running (σ × List Told) → Except Failure Unit × Running (σ × List Told))
    (h : Heard lines log r (.ok (), r') heard)
    (h_more : ∀ log, Heard more log r' ended (goesOn (r'.heard log))) :
    heard.1 = .ok () ∧ Heard (lines ++ more) log r ended (goesOn heard.2) := by
  obtain ⟨told, rfl, h_told, h_tail⟩ := h
  obtain ⟨told', h_heard, h_told', h_tail'⟩ := h_more (log ++ told)
  refine ⟨rfl, told ++ told', ?_, h_told.append h_told', ?_⟩
  · rw [h_heard, List.append_assoc]
  · rw [h_tail', h_tail, List.map_append, List.foldl_append]

/-- A part that ends the run is all that is gathered. -/
theorem Heard.refused {lines : List String} {log : List Told} {r r' : Running σ} {f : Failure}
    {heard : Except Failure Unit × Running (σ × List Told)}
    (h : Heard lines log r (.error f, r') heard) (more : List String) :
    heard.1 = .error f ∧ Heard (lines ++ more) log r (.error f, r') heard := by
  obtain ⟨told, rfl, h_told, h_tail⟩ := h
  exact ⟨rfl, told, rfl, h_told.append_refused more, h_tail⟩

/-- An event tells the lines it completes. -/
theorem step_heard (h_calls : obs.line.isSome = true) (timed : Bool) (r : Running σ) (event : Event)
    (log : List Told) :
    Heard (event.lines r.unfinished).1 log r (r.step obs timed event)
        ((r.heard log).step obs.listening timed event) ∧
      (r.step obs timed event).2.unfinished = (event.lines r.unfinished).2 := by
  cases event with
  | output bytes =>
    let behind : Running σ := { r with unfinished := (takeLines r.unfinished bytes).2 }
    have h_told := deliver_heard h_calls (takeLines r.unfinished bytes).1 behind log
    exact ⟨h_told, (deliver_leaves obs _ behind).1⟩
  | exit => exact ⟨.nothing rfl, rfl⟩
  | timeout =>
    cases timed with
    | false => exact ⟨.nothing rfl, rfl⟩
    | true =>
      obtain ⟨h_unfinished, h_tail⟩ := r.stop_keeps_output .timedOut
      have h_stop := stop_heard r log .timedOut
      rw [step, step, if_pos rfl, if_pos rfl, h_stop]
      exact ⟨.nothing h_tail, h_unfinished⟩
  | cancel =>
    let after : Running σ := { r with around := (obs.cancel r.around).2 }
    have h_around : (r.heard log).around = (r.around, log) := rfl
    have h_stop : (after.heard log).stop .cancelled = _ := stop_heard after log .cancelled
    obtain ⟨h_unfinished, h_tail⟩ := after.stop_keeps_output .cancelled
    rw [step, step, h_around, listening_cancel]
    dsimp only
    cases (obs.cancel r.around).1 with
    | false => exact ⟨.nothing rfl, rfl⟩
    | true =>
      rw [if_pos rfl, if_pos rfl]
      refine ⟨?_, h_unfinished⟩
      have h_heard : Heard [] log r (.ok (), after.stop .cancelled)
          (.ok (), (after.stop .cancelled).heard log) := .nothing h_tail
      rw [← h_stop] at h_heard
      exact h_heard

/-- Reading to the end tells the lines of all that is read, and keeps the last of them. -/
theorem watch_heard (h_calls : obs.line.isSome = true) (timed : Bool) (left : Nat) (r : Running σ)
    (log : List Told) :
    Heard (linesBehind r.unfinished (r.pieces obs timed left)) log r (r.watch obs timed left)
      ((r.heard log).watch obs.listening timed left) := by
  have h_last (r : Running σ) (log : List Told) :
      Heard (lastLine r.unfinished) log r
        ({ r with unfinished := [] }.deliver obs (lastLine r.unfinished))
        ({ r.heard log with unfinished := [] }.deliver obs.listening (lastLine r.unfinished)) :=
    deliver_heard h_calls (lastLine r.unfinished) { r with unfinished := [] } log
  induction left generalizing r log with
  | zero => exact h_last r log
  | succ left ih =>
    unfold watch pieces
    have h_same : (r.heard log).launcher = r.launcher := rfl
    rw [h_same]
    cases h_events : r.launcher.events with
    | nil => exact h_last r log
    | cons event rest =>
      dsimp only
      obtain ⟨h_step, h_unfinished⟩ :=
        step_heard h_calls timed { r with launcher := { r.launcher with events := rest } } event log
      have h_popped :
          { r.heard log with launcher := { r.launcher with events := rest } } =
            heard log { r with launcher := { r.launcher with events := rest } } := rfl
      rw [linesBehind_event, h_popped]
      rcases h_after : step obs timed
        { r with launcher := { r.launcher with events := rest } } event with ⟨f | _, r'⟩
      all_goals
        rw [h_after] at h_step h_unfinished
        rcases h_listened : step obs.listening timed
          (heard log { r with launcher := { r.launcher with events := rest } }) event
          with ⟨outcome, s⟩
        rw [h_listened] at h_step
      · obtain ⟨rfl, h_refused⟩ := h_step.refused (linesBehind (event.lines r.unfinished).2 [])
        exact h_refused
      · obtain ⟨rfl, h_goes⟩ := h_step.append (·.watch obs.listening timed left) (ih r')
        rw [← h_unfinished]
        exact h_goes

/-! ### From the start -/

theorem read_heard {obs : Observer σ} (h_calls : obs.line.isSome = true) (limits : Limits)
    (command : List String) (launcher : Launcher) (around : σ) :
    ∃ told,
      read obs.listening limits command launcher (around, []) =
        ((read obs limits command launcher around).1,
          (read obs limits command launcher around).2.heard told) ∧
      Telling (linesOf (outputRead obs limits command launcher around))
        (read obs limits command launcher around).1 told ∧
      (read obs limits command launcher around).2.tail =
        (told.map Prod.fst).foldl keepLine [] := by
  have h_quiet := setGoing_reads_nothing obs limits command launcher around
  have h_watched := watch_heard h_calls limits.wall.isSome
    (setGoing obs limits command launcher around).2.launcher.events.length
    (setGoing obs limits command launcher around).2 []
  rw [h_quiet.1] at h_watched
  unfold Heard at h_watched
  rw [h_quiet.2] at h_watched
  unfold read
  rw [setGoing_heard]
  exact h_watched

/-! ### How a run that was read to the end comes out -/

section

variable (program : String) (command : List String) {r : Running σ}

theorem outcome_of_reason {reason : Reason} {others : List Reason}
    (h : r.reasons = reason :: others) :
    r.outcome program command =
      .error (.process (program ++ " " ++ reason.words) ⟨command, r.status, r.tail⟩ none) := by
  unfold outcome
  rw [h]
  rfl

theorem outcome_of_bad_exit {status : Int} (h_none : r.reasons = [])
    (h_status : r.status = some status) (h_bad : status ≠ 0) :
    r.outcome program command =
      .error (.process (program ++ " exited with status " ++ toString status ++ ": " ++
        r.tail.getLast?.getD "no output") ⟨command, some status, r.tail⟩ none) := by
  unfold outcome
  rw [h_none, h_status]
  exact if_neg h_bad

theorem outcome_of_good_exit (h_none : r.reasons = []) (h_status : r.status = some 0) :
    r.outcome program command = .ok (String.intercalate "\n" r.tail) := by
  unfold outcome
  rw [h_none, h_status]
  exact if_pos rfl

end

end Running

/-! ## Whole runs -/

/-- Listening in changes nothing: one who does is told the lines of what is read. -/
theorem run_listening {obs : Observer σ} {limits : Limits} {program : String}
    {arguments : List String} {launcher : Launcher} {around : σ} (h_calls : obs.line.isSome = true)
    (h_cancelled : obs.cancelled around = false) (h_starts : launcher.Starts limits)
    (h_going : (Running.setGoing obs limits (program :: arguments) launcher around).1 = .ok ()) :
    ∃ told,
      run obs.listening limits program arguments launcher (around, []) =
        ((run obs limits program arguments launcher around).1,
          (run obs limits program arguments launcher around).2.1,
          (run obs limits program arguments launcher around).2.2, told) ∧
      Telling (linesOf (Running.outputRead obs limits (program :: arguments) launcher around))
        (Running.read obs limits (program :: arguments) launcher around).1 told ∧
      (Running.read obs limits (program :: arguments) launcher around).2.tail =
        (told.map Prod.fst).foldl keepLine [] := by
  obtain ⟨told, h_read, h_told, h_tail⟩ :=
    Running.read_heard h_calls limits (program :: arguments) launcher around
  have h_heard : obs.listening.cancelled (around, []) = false := h_cancelled
  have h_listens : (Running.setGoing obs.listening limits (program :: arguments) launcher
      (around, [])).1 = .ok () := by
    rw [Running.setGoing_heard]
    exact h_going
  refine ⟨told, ?_, h_told, h_tail⟩
  rw [run_of_going h_heard h_starts h_listens, run_of_going h_cancelled h_starts h_going, h_read]
  exact Running.conclude_heard obs limits program arguments _ told

/-- An observer who has nothing to do with what it is told. -/
def Observer.idle : Observer Unit where
  started s := s
  line := some fun _ s => (.ok (), s)
  token _ := none
  setToken _ s := s
  release _ s := s

/-- Every line was taken. -/
def AllTaken (told : List Told) : Prop := ∀ t ∈ told, t.2 = .ok ()

theorem idle_keeps_allTaken : Observer.idle.listening.Keeps (AllTaken ·.2) where
  started _ h := h
  line line s h := by
    intro t h_mem
    rcases List.mem_append.mp h_mem with h_mem | h_mem
    · exact h t h_mem
    · rw [List.mem_singleton.mp h_mem]
  register _ h := h
  withdraw _ h := h
  cancel _ h := h

theorem idle_takes (limits : Limits) (program : String) (arguments : List String)
    (launcher : Launcher) :
    AllTaken (run Observer.idle.listening limits program arguments launcher ((), [])).2.2.2 :=
  run_keeps idle_keeps_allTaken limits program arguments launcher fun _ h => nomatch h

/-- A process that writes two lines in three pieces and ends badly. -/
def twoLines : Launcher where
  events := [.output [111, 110], .output [101, 13, 10, 116], .output [119, 111], .exit]
  exitStatus := 3

/-- The lines of output that arrives in pieces are what splitting the whole output at every end of
a line gives, without the empty parts, read as text: they do not depend on where the pieces were
cut, none is empty and none holds an end of a line.  They are what a run tells of a process that
writes these pieces. -/
theorem lines_of_pieces (pieces : List Bytes) :
    linesOf pieces = (lineParts pieces.flatten).map Text.ofUtf8 ∧
    (∀ others : List Bytes, others.flatten = pieces.flatten → linesOf others = linesOf pieces) ∧
    (∀ line ∈ linesOf pieces, line ≠ "" ∧ '\n' ∉ line.toList ∧ '\r' ∉ line.toList) ∧
    ∀ (limits : Limits) (program : String) (arguments : List String) (exitStatus : Int),
      (run Observer.idle.listening limits program arguments
        { events := pieces.map .output, exitStatus } ((), [])).2.2.2.map Prod.fst =
          linesOf pieces := by
  refine ⟨linesOf_eq pieces, fun others h_same => ?_, fun line h_line => ?_,
    fun limits program arguments exitStatus => ?_⟩
  · rw [linesOf_eq, linesOf_eq, h_same]
  · rw [linesOf_eq] at h_line
    exact plain_of_mem_lines h_line
  · let launcher : Launcher := { events := pieces.map .output, exitStatus }
    have h_taken := idle_takes limits program arguments launcher
    obtain ⟨told, h_heard, h_told, -⟩ :=
      @run_listening _ .idle limits program arguments launcher () rfl rfl ⟨rfl, fun _ => rfl⟩ rfl
    rw [h_heard] at h_taken ⊢
    obtain ⟨h_end, h_lines⟩ := h_told.lines_of_taken h_taken
    have h_output :=
      (Running.outputRead_written .idle limits (program :: arguments) launcher ()).2 h_end
        (.inr (.inr (Running.reasons_of_outputs .idle limits.wall.isSome _ pieces rfl)))
    have h_pieces : launcher.events.filterMap Event.output? = pieces := by
      rw [List.filterMap_map]
      exact List.filterMap_some
    rw [h_output, h_pieces] at h_lines
    exact h_lines

end ImageIntake.Job
