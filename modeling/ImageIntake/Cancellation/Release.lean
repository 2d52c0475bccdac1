/-
  ImageIntake.Cancellation.Release

  Releases that do more than free a resource: one may register others, take
  some back, cancel again and fail.  A release only ever runs once its token is
  cancelled.  Then what it registers runs at once, before it goes on, and a
  failure in there ends it too; nothing is left to take back, and cancelling
  again does nothing.
-/

import ImageIntake.Cancellation.Token
import ImageIntake.Failure

namespace ImageIntake.Cancellation

/-! ## Releases -/

/-- A release by name, with what it does in turn. -/
inductive Release where
  | mk (name : String) (registers : List Release) (withdraws : List String) (cancels : Bool)
    (failure : Option Failure)

namespace Release

/-- The name of a release; two releases of one name are the same. -/
def name : Release → String
  | mk name _ _ _ _ => name

instance : BEq Release := ⟨fun a b => a.name == b.name⟩

mutual

/-- Runs a release on a cancelled token: the names that ran, in order, and the failure that left
it, if any. -/
def run : Release → List String × Option Failure
  | mk name registers _ _ failure =>
    match runInTurn registers with
    | (ran, some f) => (name :: ran, some f)
    | (ran, none) => (name :: ran, failure)

/-- Runs releases one after the other until one fails. -/
def runInTurn : List Release → List String × Option Failure
  | [] => ([], none)
  | release :: rest =>
    match run release with
    | (ran, some f) => (ran, some f)
    | (ran, none) =>
      let (more, f) := runInTurn rest
      (ran ++ more, f)

end

/-- Runs every release whatever the others do, unless one asks the program to end: what cancelling
a token does to those it held. -/
def runEach : List Release → List String × Option Failure
  | [] => ([], none)
  | release :: rest =>
    match run release with
    | (ran, failure) =>
      match failure.filter (·.endsProgram) with
      | some f => (ran, some f)
      | none =>
        let (more, f) := runEach rest
        (ran ++ more, f)

end Release

/-! ## A token in use -/

/-- A token with its single-fire action, and the names of the releases that ran so far. -/
structure Session where
  token : Token Release := .fresh
  once : Once := {}
  ran : List String := []

namespace Session

/-- Registers a release; one that runs at once may fail. -/
def register (s : Session) (release : Release) : Except Failure Unit × Session :=
  match s.token.register release with
  | (token, false) => (.ok (), { s with token })
  | (token, true) =>
    let (ran, failure) := release.run
    let s := { s with token, ran := s.ran ++ ran }
    match failure with
    | some f => (.error f, s)
    | none => (.ok (), s)

/-- Takes the earliest registration of a release back. -/
def withdraw (s : Session) (release : Release) : Session :=
  { s with token := s.token.withdraw release }

/-- Cancels the token and runs what it held. -/
def cancel (s : Session) : Except Failure Unit × Session :=
  let (token, released) := s.token.cancel
  let (ran, failure) := Release.runEach released
  let s := { s with token, ran := s.ran ++ ran }
  match failure with
  | some f => (.error f, s)
  | none => (.ok (), s)

/-- Uses the single-fire action, which counts as used only if it comes to its end. -/
def cancelOnce (s : Session) : Except Failure Bool × Session :=
  let ((done, once), token, released) := s.once.cancel s.token
  let (ran, failure) := Release.runEach released
  let s := { s with token, ran := s.ran ++ ran }
  match failure with
  | some f => (.error f, s)
  | none => (.ok done, { s with once })

end Session

end ImageIntake.Cancellation
