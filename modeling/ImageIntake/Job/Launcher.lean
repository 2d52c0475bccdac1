/-
  ImageIntake.Job.Launcher

  Limits for a process, the script of what a process does once it is started,
  and the history of what was done with processes.
-/

import ImageIntake.Failure
import ImageIntake.Number.Binary64
import ImageIntake.Text.Utf8

namespace ImageIntake.Job

open ImageIntake.Number

/-! ## Limits -/

/-- Limits for a process; each may be absent. -/
structure Limits where
  /-- Seconds of processor time. -/
  cpu : Option Int := none
  /-- Bytes of address space. -/
  addressSpace : Option Int := none
  /-- Seconds by the clock on the wall. -/
  wall : Option Binary64 := none
deriving DecidableEq, Repr

/-- A resource that the system limits. -/
inductive Resource where
  | cpu
  | addressSpace
deriving DecidableEq, Repr

namespace Limits

/-- The limits the system enforces. -/
def resources (l : Limits) : List (Resource × Int) :=
  (l.cpu.map fun n => (Resource.cpu, n)).toList ++
    (l.addressSpace.map fun n => (Resource.addressSpace, n)).toList

/-- Whether the system enforces any limit. -/
def hasResources (l : Limits) : Bool := l.cpu.isSome || l.addressSpace.isSome

end Limits

/-! ## What a process does -/

/-- One thing that happens while the output of a process is read. -/
inductive Event where
  | output (bytes : Bytes)
  /-- The token of the import is cancelled. -/
  | cancel
  /-- The wall-clock timer expires. -/
  | timeout
  /-- The process ends; what it started may still write. -/
  | exit

/-- What can happen to a process before anything of its output is read. -/
inductive Turn where
  /-- The token of the import is cancelled. -/
  | cancel
  /-- The wall-clock timer expires. -/
  | timeout
  /-- The process ends. -/
  | exit
deriving DecidableEq, Repr

/-! ## What is done with processes -/

/-- An order to kill. -/
inductive Signal where
  | group
  | single
deriving DecidableEq, Repr

/-- How the system takes the order to kill the group of a process. -/
inductive KillReply where
  | done
  /-- There is no such group any more. -/
  | gone
  /-- Only the process itself may be killed. -/
  | denied
  /-- The process itself may not be killed either. -/
  | refused (failure : Failure)

namespace KillReply

/-- The orders that are given. -/
def orders : KillReply → List Signal
  | .done | .gone => [.group]
  | .denied | .refused _ => [.group, .single]

/-- What giving them fails with. -/
def failure? : KillReply → Option Failure
  | .refused f => some f
  | .done | .gone | .denied => none

end KillReply

/-- One thing that was done with a process. -/
inductive Act where
  | launched (command : List String)
  | limited (resource : Resource) (amount : Int)
  | timed (seconds : Binary64)
  | signalled (signal : Signal)
  | timerStopped
  | reaped (status : Int)
  | outputClosed
deriving DecidableEq, Repr

/-- Where processes are started: what those to come do, and what was done so far. -/
structure Launcher where
  events : List Event := []
  exitStatus : Int := 0
  launchFailure : Option Failure := none
  killReply : KillReply := .done
  /-- Why a timer cannot be started, if it cannot. -/
  timerFailure : Option Failure := none
  /-- Whether the token is cancelled after it was looked at and before the process is started. -/
  overtaken : Bool := false
  /-- What happens after that and before the token holds the release of the run. -/
  early : List Turn := []
  /-- Whether there is more to read of a process that was killed. -/
  lingers : Bool := false
  history : List Act := []

namespace Launcher

/-- What there is to read of a process that was killed. -/
def remains (l : Launcher) : List Event := if l.lingers then l.events else []

/-- Adds to the history. -/
def note (l : Launcher) (acts : List Act) : Launcher :=
  { l with history := l.history ++ acts }

/-- The command lines that were started. -/
def launches (l : Launcher) : List (List String) :=
  l.history.filterMap fun
    | .launched command => some command
    | _ => none

/-- The orders to kill that were given. -/
def signals (l : Launcher) : List Signal :=
  l.history.filterMap fun
    | .signalled signal => some signal
    | _ => none

/-- The limits that were set. -/
def ceilings (l : Launcher) : List (Resource × Int) :=
  l.history.filterMap fun
    | .limited resource amount => some (resource, amount)
    | _ => none

/-- The time the last timer was set to. -/
def timer? (l : Launcher) : Option Binary64 :=
  (l.history.filterMap fun
    | .timed seconds => some seconds
    | _ => none).getLast?

end Launcher

end ImageIntake.Job
