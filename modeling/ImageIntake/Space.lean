/-
  ImageIntake.Space

  The bytes that can still be written at a path.  A path that cannot be examined
  counts as one without space, with a warning.
-/

import ImageIntake.Files.Access
import ImageIntake.Log.Record

namespace ImageIntake.Space

open ImageIntake.Log

/-- What a file system reports: its free blocks and their size. -/
structure Report where
  blocks : Int
  blockSize : Int
deriving DecidableEq, Repr

/-- The warning about a path that cannot be examined. -/
def warning (path : String) (f : Failure) : Record :=
  .of .warning "filesystem" "transfer" "unable to stat scratch path"
    [textField "path" path, textField "error" f.text]

/-- The bytes available at a path, given what examining it came to; and the records on the way. -/
def available (path : String) (examined : Except Failure Report) : Except Failure Int × List Record :=
  match examined with
  | .ok report => (.ok (report.blocks * report.blockSize), [])
  | .error f => if f.isSystem then (.ok (-1), [warning path f]) else (.error f, [])

/-- Examines a path in a tree on a file system with so much space. -/
def examine (tree : Files.Tree) (report : Report) (path : String) : Except Failure Report :=
  match tree.look path with
  | .ok _ => .ok report
  | .error fault => .error (.outside fault)

end ImageIntake.Space
