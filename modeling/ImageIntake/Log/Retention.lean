/-
  ImageIntake.Log.Retention

  Putting old log files away.  A log that is older than the retention is packed
  into an archive beside it, and an archive that is older is taken away.
-/

import ImageIntake.Files.Access
import ImageIntake.Files.Gzip
import ImageIntake.Log.Instant

namespace ImageIntake.Log

open ImageIntake.Files ImageIntake.Number

/-! ## Names and ages -/

/-- What the name of a log file ends in. -/
def logEnding : String := ".jsonl"

/-- What the name of an archive ends in beyond that of its log. -/
def archiveEnding : String := ".gz"

/-- Whether a name ends in a text. -/
def endsIn (ending name : String) : Bool :=
  ending.toList.reverse.isPrefixOf name.toList.reverse

/-- The paths of the entries of a directory whose names end in a text; none if it is no
directory. -/
def pathsEnding (tree : Tree) (dir ending : String) : List String :=
  match tree.list dir with
  | .ok names => (names.filter (endsIn ending)).map (pathBelow dir)
  | .error _ => []

/-- The millionths of a second since something was last written.  What was written since the clock
was looked at is as old as the clock of the files is behind. -/
def ageOf (lead : Int) : Stamp → Int
  | .aged seconds micros => seconds * secondMicros + micros
  | .fresh => -(lead * secondMicros)

/-- Whether something is older than so many days. -/
def isExpired (lead days : Int) (stamp : Stamp) : Bool :=
  days * daySeconds * secondMicros < ageOf lead stamp

/-- Whether something is older than so many days, if the moment it was written at has a date. -/
def expiry (now : Instant) (lead days : Int) (stamp : Stamp) : Except Fault Bool :=
  match dateFault? (now.moment - ageOf lead stamp) with
  | some fault => .error fault
  | none => .ok (isExpired lead days stamp)

/-- The most days that a span of time can have. -/
def dayLimit : Nat := 999999999

/-- The fault of a number of days that no span of time can have. -/
def dayFault (days : Int) : Option Fault :=
  if days < -(twoTo 31 : Int) ∨ twoTo 31 ≤ days then
    some (.overflow "Python int too large to convert to C int")
  else if dayLimit < days.natAbs then
    some (.overflow ("days=" ++ toString days ++ "; must have magnitude <= " ++ toString dayLimit))
  else none

/-! ## Putting away -/

/-- The fault of a moment that an archive cannot note as its own: it has 32 bits for the seconds from
the start of the year 1970. -/
def packFault? (moment : Int) : Option Fault :=
  let seconds := (moment - daysBefore 1970 * daySeconds * secondMicros).tdiv secondMicros
  if seconds < 0 then some (.other "error" "argument out of range")
  else if (twoTo 32 : Int) ≤ seconds then
    some (.other "error" "'L' format requires 0 <= number <= 4294967295")
  else none

/-- The tree after something that may have failed, and how that went. -/
def attempt (tree : Tree) : Except Fault Tree → Except Fault Unit × Tree
  | .error fault => (.error fault, tree)
  | .ok next => (.ok (), next)

/-- Packs a log into the archive beside it, which is opened before the log is read: if both are one
file, that is empty by then. -/
def archive (now : Instant) (tree : Tree) (path : String) : Except Fault Unit × Tree :=
  let target := path ++ archiveEnding
  match (tree.read path).bind fun _ => tree.write target fun _ => [] with
  | .error fault => (.error fault, tree)
  | .ok opened =>
    match packFault? (now.moment + tree.lead * secondMicros) with
    | some fault => (.error fault, opened)
    | none =>
      match opened.read path with
      | .error fault => (.error fault, opened)
      | .ok content =>
        let packed := opened.fill target (Gzip.pack content)
        attempt packed (packed.unlink path)

/-- Takes an archive away. -/
def discard (tree : Tree) (path : String) : Except Fault Unit × Tree :=
  attempt tree (tree.unlink path)

/-- Does something with each expired file of a list, until that fails. -/
def eachExpired (now : Instant) (days : Int) (act : Tree → String → Except Fault Unit × Tree)
    (tree : Tree) : List String → Except Fault Unit × Tree
  | [] => (.ok (), tree)
  | path :: rest =>
    match (tree.look path).bind fun node => expiry now tree.lead days node.stamp with
    | .error fault => (.error fault, tree)
    | .ok false => eachExpired now days act tree rest
    | .ok true =>
      match act tree path with
      | (.error fault, tree) => (.error fault, tree)
      | (.ok (), tree) => eachExpired now days act tree rest

/-- Puts the old files of a log directory away: logs first, then archives. -/
def cleanUp (tree : Tree) (now : Instant) (dir : String) (days : Int) :
    Except Fault Unit × Tree :=
  match dayFault days with
  | some fault => (.error fault, tree)
  | none =>
    let dir := plainPath dir
    match eachExpired now days (archive now) tree (pathsEnding tree dir logEnding) with
    | (.error fault, tree) => (.error fault, tree)
    | (.ok (), tree) =>
      eachExpired now days discard tree (pathsEnding tree dir (logEnding ++ archiveEnding))

end ImageIntake.Log
