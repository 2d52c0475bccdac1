/-
  ImageIntake.Job.Lines

  Lines of output that arrives in pieces.  A line ends at a line feed or at a
  carriage return; empty lines do not count, and what is behind the last end is
  a line of its own once the output is over.
-/

import ImageIntake.Text.Utf8

namespace ImageIntake.Job

/-- Whether a byte ends a line. -/
def endsLine (b : UInt8) : Bool := b == 0x0A || b == 0x0D

/-- The lines of bytes, without the empty ones. -/
def lineParts (bytes : Bytes) : List Bytes :=
  (bytes.splitOnP endsLine).filter (!·.isEmpty)

/-- Takes a piece in behind an unfinished line: the lines that are complete now, and what is left
unfinished. -/
def takeLines (unfinished piece : Bytes) : List String × Bytes :=
  let parts := (unfinished ++ piece).splitOnP endsLine
  ((parts.dropLast.filter (!·.isEmpty)).map Text.ofUtf8, parts.getLast?.getD [])

/-- The line an unfinished one makes at the end of the output. -/
def lastLine (unfinished : Bytes) : List String :=
  if unfinished.isEmpty then [] else [Text.ofUtf8 unfinished]

end ImageIntake.Job
