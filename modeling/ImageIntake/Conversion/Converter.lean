/-
  ImageIntake.Conversion.Converter

  Converting a remote image: nbdkit is run for a request, and if that fails in
  any way a partial destination is taken away, provided that it is a regular file
  or nothing at all.
-/

import ImageIntake.Action
import ImageIntake.Conversion.CommandLine
import ImageIntake.Files.Access
import ImageIntake.Job.Launcher
import ImageIntake.Log.Record

namespace ImageIntake.Conversion

open ImageIntake.Files ImageIntake.Log

variable {ω : Type}

/-- A converter, with what it needs of its surroundings. -/
structure Converter (ω : Type) where
  nbdkit : String := defaultNbdkit
  qemuImg : String := defaultQemuImg
  limits : Option Job.Limits := none
  /-- Runs a program under limits. -/
  run : Option Job.Limits → String → List String → Action ω Unit
  tree : ω → Tree
  setTree : Tree → ω → ω
  record : Record → ω → ω

/-- The record of a conversion. -/
def converting (r : Request) (source : String) : Record :=
  .of .info "nbdkit" "convert" "converting image to raw"
    [textField "source" source, textField "dest" r.dest,
      ("filters", .plain (.list (r.filters.map fun filter => .text filter.word)))]

/-- The warning about a destination that is left alone. -/
def leftInPlace (dest : String) : Record :=
  .of .warning "nbdkit" "convert" "conversion failed; leaving non-regular destination in place"
    [textField "dest" dest]

/-- The record of a destination that could not be taken away. -/
def removalRefused (dest : String) (fault : Fault) : Record :=
  { level := .debug, logger := partLogger "nbdkit"
    message := "failed to remove destination " ++ dest
    failure := some (.outside fault) }

/-- Takes a destination away unless it is something other than a regular file.  Refusals of the
operating system are only recorded. -/
def clearAway (tree : Tree) (dest : String) : Except Fault (Tree × List Record) :=
  let quiet (fault : Fault) : Except Fault (Tree × List Record) :=
    if fault.isSystem then .ok (tree, [removalRefused dest fault]) else .error fault
  match tree.isFileOrAbsent dest with
  | .error fault => quiet fault
  | .ok false => .ok (tree, [leftInPlace dest])
  | .ok true =>
    match tree.unlink (plainPath dest) with
    | .error fault => quiet fault
    | .ok tree => .ok (tree, [])

/-- The failure of a conversion because of another. -/
def conversionFailed (f : Failure) : Failure :=
  .pipeline .conversion "could not stream/convert image to raw" (some f)

/-- A fault as the outcome of an action. -/
def raiseFault {α β : Type} (x : Except Fault α) (k : α → Action ω β) : Action ω β :=
  match x with
  | .ok a => k a
  | .error fault => throw (.outside fault)

namespace Converter

/-- Clears the destination away and reports why the conversion failed. -/
def fail (c : Converter ω) (dest : String) (f : Failure) : Action ω Unit :=
  .of fun s =>
    match clearAway (c.tree s) dest with
    | .error fault => (.error (.outside fault), s)
    | .ok (tree, notes) =>
      (.error (conversionFailed f), notes.foldl (fun s r => c.record r s) (c.setTree tree s))

/-- Carries a request out. -/
def convert (c : Converter ω) (r : Request) : Action ω Unit :=
  raiseFault (r.arguments c.qemuImg) fun arguments =>
  raiseFault (r.effectiveUrl.bind (·.redacted)) fun source => do
    .change (c.record (converting r source))
    match ← (c.run c.limits c.nbdkit arguments).attempt with
    | .ok () => pure ()
    | .error f => if f.endsProgram then throw f else c.fail r.dest f

end Converter

end ImageIntake.Conversion
