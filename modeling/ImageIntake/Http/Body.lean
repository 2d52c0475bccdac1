/-
  ImageIntake.Http.Body

  The body of a response, as it arrives: pieces of data, failures of the
  exchange, and moments at which the import is cancelled from elsewhere.
-/

import ImageIntake.Failure
import ImageIntake.Text.Utf8

namespace ImageIntake.Http

/-- One thing that happens while a body arrives. -/
inductive Piece where
  | data (bytes : Bytes)
  | failure (f : Failure)
  | cancel

/-- What is left of a body.  It has ended once its pieces are used up or one of them failed. -/
structure Body where
  pieces : List Piece
  closeFailure : Option Failure := none
  ended : Bool := false
  closed : Bool := false
  /-- How many times the body was closed. -/
  closes : Nat := 0

namespace Body

/-- All the data of a list of pieces. -/
def dataOf (pieces : List Piece) : Bytes :=
  pieces.flatMap fun
    | .data bytes => bytes
    | _ => []

/-- Closes the body; closing may fail, and closing again does nothing. -/
def close (b : Body) : Except Failure Unit × Body :=
  if b.closed then (.ok (), b)
  else
    let b := { b with closed := true, closes := b.closes + 1 }
    match b.closeFailure with
    | some f => (.error f, b)
    | none => (.ok (), b)

end Body

end ImageIntake.Http
