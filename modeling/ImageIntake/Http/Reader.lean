/-
  ImageIntake.Http.Reader

  A reader over the body of a response, guarded by a cancellation token.  The
  token closes the reader when it is cancelled; after that, and after any other
  closing, every read is refused.
-/

import ImageIntake.Cancellation.Token
import ImageIntake.Http.Body
import ImageIntake.Stream.ByteSource

namespace ImageIntake.Http

open ImageIntake.Cancellation ImageIntake.Stream

/-! ## What a token holds -/

/-- What the token of an import releases: the reader of the body, and a running process. -/
inductive Hold where
  | reader
  | process
deriving DecidableEq, Repr

/-! ## Readers -/

/-- A reader of a body.  A client that was made for the reader is closed with it. -/
structure Reader where
  body : Body
  ownsClient : Bool := false
  clientClosed : Bool := false
  /-- Data that arrived and was not asked for yet. -/
  buffer : Bytes := []
  closed : Bool := false

namespace Reader

/-- Closes the reader: its body, then its client unless closing the body failed. -/
def close (r : Reader) : Except Failure Unit × Reader :=
  if r.closed then (.ok (), r)
  else match r.body.close with
    | (.error f, body) => (.error f, { r with body, closed := true })
    | (.ok (), body) => (.ok (), { r with body, closed := true, clientClosed := r.ownsClient })

/-- The refusal to read from a cancelled or closed reader. -/
def cancelledRead : Failure := .outside (.unnumbered "HTTP read was cancelled")

/-- The failure of a read because of another. -/
def failedRead (f : Failure) : Failure := .outside (.unnumbered ("HTTP read failed: " ++ f.text))

end Reader

/-! ## A reader with its token -/

/-- A reader together with the token that guards it. -/
structure Guarded where
  token : Token Hold
  reader : Reader

namespace Guarded

/-- Carries out one release; whether closing the reader fails is of no interest here. -/
def release (g : Guarded) : Hold → Guarded
  | .reader => { g with reader := g.reader.close.2 }
  | .process => g

/-- Cancels the token and carries out what it releases. -/
def cancel (g : Guarded) : Guarded :=
  -- The token is cancelled before anything that it releases can look at it.
  let (token, released) := g.token.cancel
  released.foldl release { g with token }

/-- The body once it has ended with these pieces left. -/
def ended (g : Guarded) (pieces : List Piece) : Guarded :=
  { g with reader := { g.reader with body := { g.reader.body with pieces, ended := true } } }

/-- Waits for data among the pieces that are left: answers the next data, or no bytes once they
are used up, which closes the body. -/
def await (g : Guarded) : List Piece → Except Failure Bytes × Guarded
  | [] =>
    let g := g.ended []
    match g.reader.body.close with
    | (.error f, body) => (.error f, { g with reader := { g.reader with body } })
    | (.ok (), body) => (.ok [], { g with reader := { g.reader with body } })
  | .data bytes :: rest =>
    if bytes.isEmpty then await g rest
    else (.ok bytes,
      { g with reader := { g.reader with body := { g.reader.body with pieces := rest } } })
  | .failure f :: rest => (.error f, g.ended rest)
  | .cancel :: rest => await g.cancel rest

/-- Makes sure that data is buffered, unless the body has ended. -/
def fill (g : Guarded) : Except Failure Unit × Guarded :=
  if !g.reader.buffer.isEmpty || g.reader.body.ended then (.ok (), g)
  else match g.await g.reader.body.pieces with
    | (.ok bytes, g) => (.ok (), { g with reader := { g.reader with buffer := bytes } })
    | (.error f, g) => (.error f, g)

/-- How a failure to get data leaves a read: a failed exchange or a misused stream is reported as
a failed or a cancelled read, anything else as it is. -/
def readFailure (g : Guarded) (f : Failure) : Failure :=
  if (f.fault?.map Fault.endsRead).getD false then
    if g.token.cancelled then Reader.cancelledRead else Reader.failedRead f
  else f

/-- Reads at most `count` bytes; none only at the end of the data. -/
def read (count : Nat) (g : Guarded) : Except Failure Bytes × Guarded :=
  if g.reader.closed || g.token.cancelled then (.error Reader.cancelledRead, g)
  else match g.fill with
    | (.error f, g) => (.error (g.readFailure f), g)
    | (.ok (), g) =>
      let buffer := g.reader.buffer
      (.ok (buffer.take count), { g with reader := { g.reader with buffer := buffer.drop count } })

instance : ByteSource Guarded where
  read count g :=
    let (outcome, g) := g.read count
    (outcome.map some, g)
  close g :=
    let (outcome, reader) := g.reader.close
    (outcome, { g with reader })
  closed g := g.reader.closed
  attach _ := .ok ()
  bound g := g.reader.buffer.length + (Body.dataOf g.reader.body.pieces).length

end Guarded

end ImageIntake.Http
