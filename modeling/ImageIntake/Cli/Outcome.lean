/-
  ImageIntake.Cli.Outcome

  Carrying a command line out: the settings are read, the command does its work
  at a site, and what it has to say comes after the log on the console.  It is
  said to no terminal, and so without control sequences.
-/

import ImageIntake.Cli.Command
import ImageIntake.Import.Fetching
import ImageIntake.Text.ControlSequence

namespace ImageIntake.Cli

/-! ## How a command ends -/

/-- The last words of a command. -/
inductive Closing where
  /-- The command did what it was asked for. -/
  | said (line : String)
  /-- The command failed in a way that it reports. -/
  | complained (line : String)
deriving DecidableEq, Repr

/-- The complaint about a failure. -/
def complaint (kind text : String) : Closing := .complained ("❌ " ++ kind ++ ": " ++ text)

/-- The complaint about a failure of the pipeline; any other failure is not the command's to
report. -/
def complain? (f : Failure) : Except Failure Closing :=
  match f.kind? with
  | some kind => .ok (complaint kind.word f.text)
  | none => .error f

/-! ## Showing a command line -/

namespace ShowCommand

/-- The request of the command. -/
def request (c : ShowCommand) (url : Url) : Except Fault Conversion.Request :=
  (Conversion.Request.make url c.destination).map fun request =>
    { request with
      filters := c.filters
      certDir := c.certDir }

/-- The words of the command line that is shown. -/
def words (c : ShowCommand) (settings : Settings) (url : Url) : Except Fault (List String) := do
  let request ← c.request url
  return settings.nbdkit :: (← request.arguments settings.qemuImg)

/-- Shows the command line. -/
def run (c : ShowCommand) (settings : Settings) : Except Failure Closing :=
  match Endpoint.read c.endpoint with
  | .error f => complain? f
  | .ok url =>
    match c.words settings url with
    | .error fault => .error (.outside fault)
    | .ok words => .ok (.said (Text.ShellWords.join words))

end ShowCommand

/-! ## Importing -/

namespace ImportCommand

/-- The settings with the log level of the command, which is not looked at any further. -/
def settle (c : ImportCommand) (settings : Settings) : Settings :=
  match c.logLevel.filter (· ≠ "") with
  | some level => { settings with logLevel := Text.upper level }
  | none => settings

/-- What the command orders. -/
def order (c : ImportCommand) (settings : Settings) : Order where
  endpoint := c.endpoint
  accessKey := c.accessKey
  secretKey := c.secretKey
  certDir := c.certDir
  contentType := c.contentType
  scratchFileName := settings.scratchFileName
  ownsClient := true

/-- What is said about an import that came to its end. -/
def closing (report : Import.Report) : Closing :=
  if report.succeeded then .said ("✅ Imported image to " ++ report.imagePath.getD "None")
  else match report.failure with
    | some f => complaint ((f.kind?.map (·.word)).getD "Error") f.text
    | none => complaint "Error" "None"

/-- Imports from a source. -/
def fetch (c : ImportCommand) (settings : Settings) (source : Source) : Action Site Closing := do
  let env := Site.collaborators (Site.settledConverter settings)
  let report ← source.fetch env c.destination c.scratchDir settings.scratchFileName
  pure (closing report)

/-- Imports the image. -/
def run (c : ImportCommand) (settings : Settings) : Action Site Closing := do
  let settings := c.settle settings
  Site.setUpLog settings.logPlan
  match settings.metricsPort with
  | some port => Site.startMetrics port
  | none => pure ()
  match ← (Source.ofOwnedOrder (c.order settings) settings.ownerUid).attempt with
  | .error f => .give (complain? f)
  | .ok source => c.fetch settings source

end ImportCommand

/-- Carries a command out. -/
def Command.run (command : Command) (settings : Settings) : Action Site Closing :=
  match command with
  | .importImage c => c.run settings
  | .showArguments c => .give (c.run settings)

/-! ## Outcomes -/

/-- What a command line came to. -/
structure Outcome where
  status : Nat
  output : String := ""
  errors : String := ""
  /-- Whether the usage is to be shown instead of anything else. -/
  usage : Bool := false
  /-- The failure that ended the command without its doing. -/
  uncaught : Option Failure := none
  site : Site

namespace Outcome

/-- The outcome of a failure that nobody reports. -/
def ofFailure (site : Site) (f : Failure) : Outcome :=
  { status := 1, errors := site.book.console, uncaught := some f, site }

/-- The outcome of a command line that is not carried out. -/
def ofStop (site : Site) : Stop → Outcome
  | .help => { status := 0, usage := true, site }
  | .misuse => { status := 2, usage := true, site }

/-- A line as it is said. -/
def spoken (line : String) : String := Text.ControlSequence.plain (line ++ "\n")

/-- The outcome of a command that ended in its own way. -/
def ofClosing (site : Site) : Closing → Outcome
  | .said line => { status := 0, output := spoken line, errors := site.book.console, site }
  | .complained line => { status := 1, errors := site.book.console ++ spoken line, site }

end Outcome

/-- Carries a command line out in an environment at a site. -/
def perform (environment : List (String × String)) (words : List String) (site : Site) : Outcome :=
  match Command.read environment words with
  | .error stop => .ofStop site stop
  | .ok command =>
    match Settings.read { environment } with
    | .error fault => .ofFailure site (.outside fault)
    | .ok settings =>
      match (command.run settings).after site with
      | (.ok closing, site) => .ofClosing site closing
      | (.error f, site) => .ofFailure site f

end ImageIntake.Cli
