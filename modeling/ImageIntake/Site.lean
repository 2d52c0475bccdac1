/-
  ImageIntake.Site

  What an import works in: the files and the log, the line to the servers, the
  stream of the image with its token, the place where converters are started,
  and the progress that is published.
-/

import ImageIntake.Conversion.Converter
import ImageIntake.Feed
import ImageIntake.Http.Opening
import ImageIntake.Job.Running
import ImageIntake.Log.Logbook
import ImageIntake.Metrics.Progress
import ImageIntake.Metrics.Server
import ImageIntake.Settings.Basic
import ImageIntake.Space

namespace ImageIntake

open ImageIntake.Log ImageIntake.Number

/-- The surroundings of an import. -/
structure Site where
  tree : Files.Tree
  now : Instant
  book : Logbook := {}
  line : Http.Line := ⟨[], [], 0⟩
  feed : Feed := {}
  launcher : Job.Launcher := {}
  registry : Metrics.Registry Binary64 := {}
  /-- Who is told of the lines a converter writes. -/
  reporter : Option (Metrics.Reporter Binary64) := none
  /-- The file system that directories are on. -/
  space : Space.Report := ⟨0, 0⟩
  /-- Why a metrics server cannot be started, if it cannot. -/
  serverFailure : Option Failure := none
  /-- Where metrics servers were started, or were to be. -/
  served : List (Int × String) := []

namespace Site

/-! ## Records -/

/-- Offers a record to the log. -/
def record (r : Record) (site : Site) : Site :=
  let (book, tree) := site.book.offer site.tree site.now r
  { site with book, tree }

/-- Offers records to the log, one after the other. -/
def recordAll (rs : List Record) (site : Site) : Site :=
  rs.foldl (fun site r => site.record r) site

/-- Sets the log up. -/
def setUpLog (plan : Logbook.Plan) : Action Site Unit :=
  .of fun site =>
    let (outcome, book, tree) := site.book.setUp site.tree site.now plan
    (outcome.mapError .outside, { site with book, tree })

/-- Starts the metrics server. -/
def startMetrics (port : Int) : Action Site Unit :=
  .of fun site =>
    let site := { site with served := site.served ++ [(port, Metrics.anyHost)] }
    match Metrics.startServer port Metrics.anyHost site.serverFailure with
    | .ok (_, note) => (.ok (), site.record note)
    | .error f => (.error f, site)

/-! ## The stream -/

/-- Carries out one release of the token. -/
def release (hold : Http.Hold) (site : Site) : Site :=
  { site with feed := site.feed.release hold }

/-- Cancels the token. -/
def cancel : Action Site Unit :=
  .of fun site =>
    let (outcome, feed) := site.feed.cancel
    (outcome, { site with feed })

/-- The record of a classified header. -/
def classifiedHeader (shown : Format.Class) : Record :=
  .of .debug "format_readers" "info" "classified image header"
    [optionField "compression" (shown.compression.map (·.word)),
      optionField "image_format" (shown.image.map (·.word))]

/-- Classifies the stream by its header. -/
def classify (contentLength : Int) : Action Site Format.Class :=
  .of fun site =>
    let (outcome, feed) := site.feed.classify contentLength
    let site := { site with feed }
    match outcome with
    | .ok shown => (.ok shown, site.record (classifiedHeader shown))
    | .error f => (.error f, site)

/-- Closes the stream. -/
def closeFeed : Action Site Unit :=
  .of fun site =>
    let (outcome, feed) := site.feed.close
    (outcome, { site with feed })

/-! ## Space -/

/-- The bytes available at a path. -/
def usableSpace (path : String) : Action Site Int :=
  .of fun site =>
    let (outcome, notes) := Space.available path (Space.examine site.tree site.space path)
    (outcome, site.recordAll notes)

/-! ## Converting -/

/-- Makes the reporter of an owner. -/
def makeReporter (owner : String) : Action Site Unit :=
  .of fun site =>
    match Metrics.Reporter.make owner site.registry with
    | (.error f, registry) => (.error f, { site with registry })
    | (.ok reporter, registry) => (.ok (), { site with registry, reporter := some reporter })

/-- Reports a line of a converter. -/
def report (line : String) (site : Site) : Except Failure Unit × Site :=
  match site.reporter with
  | none => (.ok (), site)
  | some reporter =>
    let (outcome, reporter, registry) := reporter.report line site.registry
    let site := { site with registry, reporter := some reporter }
    match outcome with
    | .ok true => (.ok (), site.record Metrics.Reporter.advanced)
    | .ok false => (.ok (), site)
    | .error f => (.error f, site)

/-- The record of a process that was started. -/
def startedProcess : Record :=
  { level := .debug, logger := partLogger "system", message := "started process"
    stage := .text "exec" }

/-- What a run of a converter has to do with the site, lines being taken as told. -/
def observer (take : String → Site → Except Failure Unit × Site) : Job.Observer Site where
  started := record startedProcess
  line := some take
  token site := some site.feed.token
  setToken token site := { site with feed := { site.feed with token } }
  release := release

/-- Runs a program under limits. -/
def runJob (take : String → Site → Except Failure Unit × Site) (limits : Option Job.Limits)
    (program : String) (arguments : List String) : Action Site Unit :=
  .of fun site =>
    let (outcome, launcher, site) :=
      Job.run (observer take) (limits.getD {}) program arguments site.launcher site
    (outcome.map fun _ => (), { site with launcher })

/-- The converter that runs nbdkit. -/
def converter (limits : Option Job.Limits) : Conversion.Converter Site where
  limits := limits
  run := runJob report
  tree := (·.tree)
  setTree tree site := { site with tree }
  record := record

/-- The converter the settings ask for. -/
def settledConverter (settings : Settings) : Conversion.Converter Site :=
  { converter (some settings.limits) with
    nbdkit := settings.nbdkit
    qemuImg := settings.qemuImg }

end Site

end ImageIntake
