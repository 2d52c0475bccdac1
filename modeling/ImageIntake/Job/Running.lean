/-
  ImageIntake.Job.Running

  Running a process under limits.  Its output is handed on line by line while it
  runs; the wall-clock timer and the cancellation token kill its group, and the
  first reason to kill it is the one reported.  Once its output is read, and
  however the reading ends, the timer is stopped and the token lets go of the
  process; unless it may not be killed, the process is waited for and its output
  is closed.
-/

import ImageIntake.Cancellation.Token
import ImageIntake.Http.Reader
import ImageIntake.Job.Launcher
import ImageIntake.Job.Lines

namespace ImageIntake.Job

open ImageIntake.Cancellation ImageIntake.Http

variable {σ : Type}

/-! ## Around a process -/

/-- What a run has to do with its surroundings. -/
structure Observer (σ : Type) where
  /-- The process has started. -/
  started : σ → σ
  /-- Takes a line of output, where somebody does; a failure ends the run. -/
  line : Option (String → σ → Except Failure Unit × σ)
  /-- The token that is in force, if there is one. -/
  token : σ → Option (Token Hold)
  /-- Puts the token back after a change. -/
  setToken : Token Hold → σ → σ
  /-- Carries out a release that is not the run's own. -/
  release : Hold → σ → σ

namespace Observer

/-- Hands a line on. -/
def hand (obs : Observer σ) (line : String) (s : σ) : Except Failure Unit × σ :=
  match obs.line with
  | some take => take line s
  | none => (.ok (), s)

/-- Whether the token in force is cancelled. -/
def cancelled (obs : Observer σ) (s : σ) : Bool :=
  (obs.token s).any (·.cancelled)

/-- Changes the token in force. -/
def onToken (obs : Observer σ) (change : Token Hold → Token Hold) (s : σ) : σ :=
  match obs.token s with
  | some token => obs.setToken (change token) s
  | none => s

/-- Cancels the token in force and carries out what others registered; answers whether the run's
own release was among it. -/
def cancel (obs : Observer σ) (s : σ) : Bool × σ :=
  match obs.token s with
  | none => (false, s)
  | some token =>
    let (token, released) := token.cancel
    (released.contains .process, released.foldl (fun s hold => obs.release hold s)
      (obs.setToken token s))

/-- What is around a run when its process is started: the token may have been cancelled after the run
looked at it. -/
def overtake (obs : Observer σ) (launcher : Launcher) (s : σ) : σ :=
  if launcher.overtaken then (obs.cancel s).2 else s

end Observer

/-! ## Reasons to kill -/

/-- Why a process was killed. -/
inductive Reason where
  | cancelled
  | timedOut
deriving DecidableEq, Repr

/-- The wording of a reason. -/
def Reason.words : Reason → String
  | .cancelled => "cancelled"
  | .timedOut => "timed out"

/-! ## A run -/

/-- A run: the process, its output so far, and what is around it. -/
structure Running (σ : Type) where
  launcher : Launcher
  around : σ
  /-- How the process ended, once it has. -/
  status : Option Int := none
  reasons : List Reason := []
  unfinished : Bytes := []
  /-- The last lines of the output. -/
  tail : List String := []

/-- The number of lines that are kept. -/
def tailLength : Nat := 20

/-- Adds a line to those kept. -/
def keepLine (tail : List String) (line : String) : List String :=
  let lines := tail ++ [line]
  lines.drop (lines.length - tailLength)

/-- The status of a process that was killed. -/
def killedStatus : Int := -9

namespace Running

/-- Waits for the process to end. -/
def wait (r : Running σ) : Running σ :=
  { r with status := some (r.status.getD r.launcher.exitStatus) }

/-- Orders the group of the process to be killed; the process alone if that is denied. -/
def signal (r : Running σ) : Running σ :=
  let launcher := r.launcher.note (r.launcher.killReply.orders.map .signalled)
  match r.launcher.killReply with
  | .done | .denied =>
    { r with
      launcher := { launcher with events := launcher.remains }
      status := some killedStatus }
  | .gone => { r with launcher }.wait
  | .refused _ => { r with launcher }

/-- Orders the process to be killed, and fails if that is refused. -/
def kill (r : Running σ) : Except Failure Unit × Running σ :=
  match r.launcher.killReply.failure? with
  | some f => (.error f, r.signal)
  | none => (.ok (), r.signal)

/-- Kills the process for a reason, unless it has ended.  Nobody is told if that is refused.  A process
that ends while the order is given is one whose group is gone. -/
def stop (reason : Reason) (r : Running σ) : Running σ :=
  if r.status.isNone then { r with reasons := r.reasons ++ [reason] }.signal else r

/-- What happens to a run while the token does not hold its release. -/
def turn (obs : Observer σ) (timed : Bool) (r : Running σ) : Turn → Running σ
  | .exit => r.wait
  | .timeout => if timed then r.stop .timedOut else r
  | .cancel => { r with around := (obs.cancel r.around).2 }

/-- Registers the release of the run; where the token is cancelled by now, it is carried out. -/
def register (obs : Observer σ) (r : Running σ) : Except Failure Unit × Running σ :=
  match obs.token r.around with
  | none => (.ok (), r)
  | some token =>
    let (token, atOnce) := token.register .process
    let r := { r with around := obs.setToken token r.around }
    if atOnce && r.status.isNone then { r with reasons := r.reasons ++ [Reason.cancelled] }.kill
    else (.ok (), r)

/-- Hands lines on until one is not taken. -/
def deliver (obs : Observer σ) (r : Running σ) : List String → Except Failure Unit × Running σ
  | [] => (.ok (), r)
  | line :: rest =>
    let (outcome, around) := obs.hand line r.around
    let r := { r with around, tail := keepLine r.tail line }
    match outcome with
    | .error f => (.error f, r)
    | .ok () => deliver obs r rest

/-- What an event does to a run. -/
def step (obs : Observer σ) (timed : Bool) (r : Running σ) : Event → Except Failure Unit × Running σ
  | .output bytes =>
    let (lines, unfinished) := takeLines r.unfinished bytes
    { r with unfinished }.deliver obs lines
  | .exit => (.ok (), r.wait)
  | .timeout => (.ok (), if timed then r.stop .timedOut else r)
  | .cancel =>
    let (mine, around) := obs.cancel r.around
    let r := { r with around }
    (.ok (), if mine then r.stop .cancelled else r)

/-- Reads the output to its end, `left` being the number of events that can still come. -/
def watch (obs : Observer σ) (timed : Bool) : (left : Nat) → Running σ →
    Except Failure Unit × Running σ
  -- What the output ends with is a line too, though no break ends it.
  | 0, r => { r with unfinished := [] }.deliver obs (lastLine r.unfinished)
  | left + 1, r =>
    match r.launcher.events with
    | [] => { r with unfinished := [] }.deliver obs (lastLine r.unfinished)
    | event :: rest =>
      match { r with launcher := { r.launcher with events := rest } }.step obs timed event with
      | (.error f, r) => (.error f, r)
      | (.ok (), r) => watch obs timed left r

/-- Waits for the process and closes its output. -/
def reap (r : Running σ) : Running σ :=
  let r := r.wait
  { r with launcher := r.launcher.note [.reaped (r.status.getD 0), .outputClosed] }

/-- Stops the timer, and takes the registration of the release back. -/
def letGo (obs : Observer σ) (timed : Bool) (r : Running σ) : Running σ :=
  { r with
    launcher := r.launcher.note (if timed then [.timerStopped] else [])
    around := obs.onToken (·.withdraw .process) r.around }

/-- Kills a process that still runs.  After reading that is one whose line was not taken. -/
def killRunning (r : Running σ) : Except Failure Unit × Running σ :=
  if r.status.isNone then r.kill else (.ok (), r)

/-- Ends the run: the timer is stopped, the token lets go, and a process that still runs is killed.
One that may not be killed is left as it is; any other is waited for, and its output is closed. -/
def finish (obs : Observer σ) (timed : Bool) (r : Running σ) : Except Failure Unit × Running σ :=
  match (r.letGo obs timed).killRunning with
  | (.error f, r) => (.error f, r)
  | (.ok (), r) => (.ok (), r.reap)

end Running

/-! ## The outcome -/

/-- The failure of a run that ended badly. -/
def ended (command : List String) (what : String) (status : Option Int) (tail : List String)
    (cause : Option Failure) : Failure :=
  .process what ⟨command, status, tail⟩ cause

/-- The outcome of a run whose output was read to the end. -/
def Running.outcome (program : String) (command : List String) (r : Running σ) :
    Except Failure String :=
  match r.reasons with
  | reason :: _ => .error (ended command (program ++ " " ++ reason.words) r.status r.tail none)
  | [] =>
    let status := r.status.getD 0
    if status = 0 then .ok (String.intercalate "\n" r.tail)
    else .error (ended command
      (program ++ " exited with status " ++ toString status ++ ": " ++
        r.tail.getLast?.getD "no output") r.status r.tail none)

/-- What is noted when a process has started. -/
def launchActs (limits : Limits) (command : List String) : List Act :=
  .launched command :: limits.resources.map (fun (resource, amount) => .limited resource amount) ++
    (limits.wall.map Act.timed).toList

namespace Running

/-- A run whose process was started, once what happens early has happened. -/
def begun (obs : Observer σ) (limits : Limits) (command : List String) (launcher : Launcher)
    (around : σ) : Running σ :=
  launcher.early.foldl (turn obs limits.wall.isSome)
    { launcher := launcher.note (launchActs limits command), around := obs.started around }

/-- Lets a run go that has read, and answers the last lines. -/
def conclude (obs : Observer σ) (limits : Limits) (program : String) (arguments : List String) :
    Except Failure Unit × Running σ → Except Failure String × Launcher × σ
  | (.error f, r) =>
    let (closing, r) := r.finish obs limits.wall.isSome
    (closing.bind fun _ => .error f, r.launcher, r.around)
  | (.ok (), r) =>
    let (closing, r) := r.wait.finish obs limits.wall.isSome
    (closing.bind fun _ => r.outcome program (program :: arguments), r.launcher, r.around)

end Running

/-- Runs a program under limits and answers the last lines of its output. -/
def run (obs : Observer σ) (limits : Limits) (program : String) (arguments : List String)
    (launcher : Launcher) (around : σ) : Except Failure String × Launcher × σ :=
  let command := program :: arguments
  if obs.cancelled around then
    (.error (ended command (program ++ " was cancelled before it started") none [] none),
      launcher, around)
  else
    let around := obs.overtake launcher around
    match launcher.launchFailure with
    | some f =>
      if f.isSystem then
        (.error (ended command ("Failed to launch " ++ program ++ ": " ++ f.text) none [] (some f)),
          launcher, around)
      else (.error f, launcher, around)
    | none =>
      match if limits.wall.isSome then launcher.timerFailure else none with
      | some f => (.error f, launcher.note (launchActs limits command), obs.started around)
      | none =>
        match (Running.begun obs limits command launcher around).register obs with
        | (.error f, r) => (.error f, r.launcher, r.around)
        | (.ok (), r) =>
          Running.conclude obs limits program arguments
            (r.watch obs limits.wall.isSome r.launcher.events.length)

end ImageIntake.Job
