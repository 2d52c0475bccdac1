/-
  ImageIntake.Import.Basic

  An import: a data source is taken from phase to phase, each of its operations
  naming the next one, and is closed in the end whatever happened.  A failure of
  the pipeline ends up in the report; a failure of anything else leaves the
  import.
-/

import ImageIntake.Action
import ImageIntake.Files.Path
import ImageIntake.Log.Record
import ImageIntake.Phase
import ImageIntake.Url.Basic

namespace ImageIntake

open ImageIntake.Log

/-! ## What is driven -/

/-- A data source: what can be asked of it, and done with it. -/
structure DataSource (σ : Type) where
  info : Action σ Phase
  transfer : String → Action σ Phase
  transferFile : String → Action σ Phase
  process : Action σ Phase
  /-- The locator to read from, once it is known. -/
  url : Action σ (Option Url)
  close : Action σ Unit

/-- An import: its data source, where the image is to go, and what is done with it there. -/
structure Import (σ : Type) where
  source : DataSource σ
  record : Record → σ → σ
  dataFile : String
  /-- Scratch space for the converted image; an empty text stands for none. -/
  scratchDir : Option String := none
  scratchFileName : String := "tmpimage"
  /-- Adjusts the size of the image. -/
  resize : String → Action σ Unit
  /-- Hands the image on. -/
  finalize : Option Url → String → Action σ Unit

/-- What is reported of an import. -/
structure Import.Report where
  /-- The phases that were entered, in order. -/
  phases : List Phase := []
  /-- Where the image was written to. -/
  imagePath : Option String := none
  failure : Option Failure := none

namespace Import

variable {σ : Type}

/-- Whether the import came to its end without a failure. -/
def Report.succeeded (report : Report) : Bool :=
  report.failure.isNone && report.phases.getLast? == some .done

/-- The report with one more phase. -/
def Report.visit (phase : Phase) (report : Report) : Report :=
  { report with phases := report.phases ++ [phase] }

/-- The report of an import that failed, with the phase the failure comes to. -/
def Report.failed (f : Failure) (report : Report) : Report :=
  { report.visit (f.phase?.getD .error) with failure := some f }

/-! ## Records -/

/-- The record of a phase that is entered. -/
def entering (phase : Phase) : Record :=
  { level := .debug, logger := partLogger "processor", message := "entering phase"
    stage := .text phase.word }

/-- The record of a failure. -/
def importFailed (f : Failure) : Record :=
  .of .error "processor" "error" "import failed"
    [optionField "kind" (f.kind?.map (·.word)), textField "error" f.text]

/-- The record of a data source that could not be released. -/
def releaseFailed (f : Failure) : Record :=
  .of .warning "processor" "close" "failed to release data source" [textField "error" f.text]

/-- The record of a step that is left out. -/
def leftOut (step stage : String) : Record :=
  { level := .debug, logger := partLogger "processor"
    message := "no " ++ step ++ " step configured"
    stage := .text stage }

/-- An import without steps after the conversion. -/
def plain (source : DataSource σ) (record : Record → σ → σ) (dataFile : String) : Import σ where
  source := source
  record := record
  dataFile := dataFile
  resize _ := .change (record (leftOut "resize" "resize"))
  finalize _ _ := .change (record (leftOut "finalize" "convert"))

/-! ## Phases -/

/-- The scratch directory, if there is one. -/
def scratch? (i : Import σ) : Option String := i.scratchDir.filter (· ≠ "")

/-- Where the image is converted to. -/
def imagePath (i : Import σ) : String :=
  match i.scratch? with
  | some dir => Files.pathBelow dir i.scratchFileName
  | none => i.dataFile

/-- Where the steps after the conversion find the image. -/
def imageOf (i : Import σ) (report : Report) : String :=
  match report.imagePath with
  | some path => if path = "" then i.dataFile else path
  | none => i.dataFile

/-- The fault of a phase that nothing can be done in. -/
def unexpected (phase : Phase) : Failure :=
  .outside (.value ("unexpected phase <ProcessingPhase." ++
    Phase.vocabulary.label phase ++ ": '" ++ phase.word ++ "'>"))

/-- Converts the image. -/
def transfer (i : Import σ) : Action σ Phase :=
  match i.scratch? with
  | some dir => i.source.transfer dir
  | none => i.source.transferFile i.dataFile

/-- What is done in a phase; answers the phase after it. -/
def advance (i : Import σ) (phase : Phase) : Action (Report × σ) Phase :=
  match phase with
  | .info => Action.second i.source.info
  | .transferDataFile => do
    .change fun (report, s) => ({ report with imagePath := some i.imagePath }, s)
    Action.second i.transfer
  | .resize => do
    let path := i.imageOf (← get).1
    Action.second do
      i.resize path
      i.source.process
  | .convert => do
    let path := i.imageOf (← get).1
    Action.second do
      i.finalize (← i.source.url) path
      pure .done
  | .error | .done => throw (unexpected phase)

/-- Puts a phase on record and does what is to be done in it. -/
def step (i : Import σ) (phase : Phase) : Action (Report × σ) Phase := do
  .change fun (report, s) => (report.visit phase, i.record (entering phase) s)
  i.advance phase

/-- Comes to the last phase. -/
def finish (state : Report × σ) : Except Failure Unit × Report × σ :=
  (.ok (), state.1.visit .done, state.2)

/-- Goes from phase to phase until the last; no answer if more than so many have to be gone
through. -/
def drive? (i : Import σ) : (fuel : Nat) → Phase → Report × σ →
    Option (Except Failure Unit × Report × σ)
  | 0, phase, state => if phase = .done then some (finish state) else none
  | fuel + 1, phase, state =>
    if phase = .done then some (finish state)
    else match (i.step phase).after state with
      | (.error f, state) => some (.error f, state)
      | (.ok next, state) => drive? i fuel next state

/-! ## The whole import -/

/-- How the phases ended is settled: a failure of the pipeline is reported, any other is kept for
after the closing. -/
def settle (i : Import σ) (outcome : Except Failure Unit) (report : Report) (s : σ) :
    Except Failure Unit × Report × σ :=
  match outcome with
  | .ok () => (.ok (), report, s)
  | .error f =>
    if f.isPipeline then (.ok (), report.failed f, i.record (importFailed f) s)
    else (.error f, report, s)

/-- Closes the data source.  A failure of the pipeline is put on record, and reported if there is
none yet. -/
def conclude (i : Import σ) (report : Report) (s : σ) : Except Failure Unit × Report × σ :=
  match i.source.close.after s with
  | (.ok (), s) => (.ok (), report, s)
  | (.error f, s) =>
    if f.isPipeline then
      (.ok (), if report.failure.isNone then report.failed f else report,
        i.record (releaseFailed f) s)
    else (.error f, report, s)

/-- Runs the import through at most so many phases. -/
def run? (i : Import σ) (fuel : Nat) (s : σ) : Option (Except Failure Report × σ) :=
  (i.drive? fuel .info ({}, s)).map fun (outcome, report, s) =>
    let (outcome, report, s) := i.settle outcome report s
    let (closing, report, s) := i.conclude report s
    match closing, outcome with
    | .error f, _ => (.error f, s)
    | .ok (), .error f => (.error f, s)
    | .ok (), .ok () => (.ok report, s)

end Import

end ImageIntake
