/-
  ImageIntake.Format.Stack

  The reader stack of an image: a buffered reader whose header has been looked
  at, and not taken, with the class that the header shows.
-/

import ImageIntake.Format.Magic
import ImageIntake.Stream.Buffered

namespace ImageIntake.Format

open ImageIntake.Stream

variable {σ : Type} [ByteSource σ]

/-- A classified stream; reading it starts with the header. -/
structure Stack (σ : Type) where
  reader : Buffered σ
  shown : Class

namespace Stack

/-- The failure to classify a stream that has no bytes at all. -/
def emptyStream : Failure :=
  .outside (.value "unable to read image header: stream is empty")

/-- Classifies a buffered stream; answers the reader also if that fails. -/
def ofBuffered (reader : Buffered σ) (contentLength : Int) :
    Except Failure (Stack σ) × Buffered σ :=
  match reader.peek with
  | (.error f, reader) => (.error f, reader)
  | (.ok ahead, reader) =>
    let header := ahead.take (headerLimit contentLength)
    if header.isEmpty then (.error emptyStream, reader)
    else (.ok ⟨reader, Class.ofHeader header⟩, reader)

/-- A stream that could not be classified: as it is then, and whether a buffer that nobody uses
any more still stands in front of it. -/
structure Unclassified (σ : Type) where
  failure : Failure
  source : σ
  abandoned : Bool

/-- Classifies a stream through a buffer of one header. -/
def ofSource (source : σ) (contentLength : Int) : Except (Unclassified σ) (Stack σ) :=
  match Buffered.attach headerSize source with
  | .error f => .error ⟨f, source, false⟩
  | .ok reader =>
    match ofBuffered reader contentLength with
    | (.error f, reader) => .error ⟨f, reader.source, true⟩
    | (.ok stack, _) => .ok stack

/-- Closes the stream. -/
def close (stack : Stack σ) : Except Failure Unit × Stack σ :=
  let (outcome, reader) := stack.reader.close
  (outcome, { stack with reader })

end Stack

end ImageIntake.Format
