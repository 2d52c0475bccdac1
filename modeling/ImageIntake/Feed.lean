/-
  ImageIntake.Feed

  The stream that an image is classified from, and the token that guards it.  The
  stream is the reader of a response, bytes in memory, or a script; only the
  first is ever released by the token.
-/

import ImageIntake.Format.Stack
import ImageIntake.Http.Reader

namespace ImageIntake

open ImageIntake.Cancellation ImageIntake.Http ImageIntake.Stream

/-- A stream. -/
inductive Feed.Source where
  /-- There is no stream yet. -/
  | unopened
  | memory (m : Memory)
  | script (s : Scripted)
  | response (r : Reader)

/-- A stream with its token. -/
structure Feed where
  token : Token Hold := .fresh
  source : Feed.Source := .unopened
  /-- Whether a buffer that nobody uses any more stands in front of the stream. -/
  abandoned : Bool := false

namespace Feed

/-! ## Closing -/

/-- Closes the stream. -/
def close (feed : Feed) : Except Failure Unit × Feed :=
  match feed.source with
  | .unopened => (.ok (), feed)
  | .memory m => (.ok (), { feed with source := .memory { m with closed := true } })
  | .script s => (.ok (), { feed with source := .script { s with closed := true } })
  | .response r =>
    let (outcome, r) := r.close
    (outcome, { feed with source := .response r })

/-- Whether the stream is closed. -/
def closed (feed : Feed) : Bool :=
  match feed.source with
  | .unopened => true
  | .memory m => m.closed
  | .script s => s.closed
  | .response r => r.closed

/-- Carries out one release. -/
def release (hold : Hold) (feed : Feed) : Feed :=
  match hold with
  | .reader => feed.close.2
  | .process => feed

/-- The failure that one release passes on: of those to close only one that asks the program to
end. -/
def alarm (hold : Hold) (feed : Feed) : Option Failure :=
  match hold, feed.close.1 with
  | .reader, .error f => if f.endsProgram then some f else none
  | _, _ => none

/-- Cancels the token and carries out what it releases. -/
def cancel (feed : Feed) : Except Failure Unit × Feed :=
  let (token, released) := feed.token.cancel
  carryOut release alarm released { feed with token }

/-- A buffer that nobody uses any more closes the stream it stands in front of. -/
def settle (feed : Feed) : Feed :=
  if feed.abandoned then { feed.close.2 with abandoned := false } else feed

/-- How many times the body of a response was closed. -/
def bodyCloses (feed : Feed) : Nat :=
  match feed.source with
  | .response r => r.body.closes
  | _ => 0

/-! ## Reading -/

/-- Reads at most so many bytes. -/
def read (count : Nat) (feed : Feed) : ReadResult × Feed :=
  match feed.source with
  | .unopened => (.error (.outside .closedFile), feed)
  | .memory m =>
    let (outcome, m) := m.read count
    (outcome, { feed with source := .memory m })
  | .script s =>
    let (outcome, s) := s.read count
    (outcome, { feed with source := .script s })
  | .response r =>
    let (outcome, g) := Guarded.read count ⟨feed.token, r⟩
    (outcome.map some, { feed with
      token := g.token
      source := .response g.reader })

instance : ByteSource Feed where
  read := read
  close := close
  closed := closed
  attach feed :=
    match feed.source with
    | .memory m => ByteSource.attach m
    | _ => .ok ()
  bound feed :=
    match feed.source with
    | .unopened => 0
    | .memory m => ByteSource.bound m
    | .script s => ByteSource.bound s
    | .response r => ByteSource.bound (⟨feed.token, r⟩ : Guarded)

/-! ## Classifying -/

/-- Classifies the stream by its header.  The stream stays as it is after one look at it; if that
fails, a buffer may be left in front of it. -/
def classify (feed : Feed) (contentLength : Int) : Except Failure Format.Class × Feed :=
  match Format.Stack.ofSource feed contentLength with
  | .ok stack => (.ok stack.shown, stack.reader.source)
  | .error u => (.error u.failure, { u.source with abandoned := u.source.abandoned || u.abandoned })

end Feed

end ImageIntake
