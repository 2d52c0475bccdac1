import ImageIntake.Action
import ImageIntake.Cancellation.Release
import ImageIntake.Cancellation.Token
import ImageIntake.Certificate.Armour
import ImageIntake.Certificate.Bundle
import ImageIntake.Certificate.Element
import ImageIntake.Certificate.Encryption
import ImageIntake.Cli.Arguments
import ImageIntake.Cli.Command
import ImageIntake.Cli.Outcome
import ImageIntake.Conversion.CommandLine
import ImageIntake.Conversion.Converter
import ImageIntake.Conversion.Request
import ImageIntake.Endpoint
import ImageIntake.Failure
import ImageIntake.Fault
import ImageIntake.Feed
import ImageIntake.Files.Access
import ImageIntake.Files.Gzip
import ImageIntake.Files.Inflate
import ImageIntake.Files.Path
import ImageIntake.Files.Refusal
import ImageIntake.Files.Tree
import ImageIntake.Format.Magic
import ImageIntake.Format.Stack
import ImageIntake.Host.Composition
import ImageIntake.Host.Composition.Tables
import ImageIntake.Host.Ipv4
import ImageIntake.Host.Ipv6
import ImageIntake.Host.Label
import ImageIntake.Host.Label.Tables
import ImageIntake.Host.Name
import ImageIntake.Host.Punycode
import ImageIntake.Http.Body
import ImageIntake.Http.Exchange
import ImageIntake.Http.Opening
import ImageIntake.Http.Reader
import ImageIntake.Http.Trust
import ImageIntake.Import.Basic
import ImageIntake.Import.Fetching
import ImageIntake.Job.Launcher
import ImageIntake.Job.Lines
import ImageIntake.Job.Running
import ImageIntake.Json.Printer
import ImageIntake.Json.Reader
import ImageIntake.Json.Value
import ImageIntake.Log.Instant
import ImageIntake.Log.Line
import ImageIntake.Log.Logbook
import ImageIntake.Log.Masking
import ImageIntake.Log.Record
import ImageIntake.Log.Retention
import ImageIntake.Log.Template
import ImageIntake.Main
import ImageIntake.Metrics.Percentage
import ImageIntake.Metrics.Progress
import ImageIntake.Metrics.Registry
import ImageIntake.Metrics.Server
import ImageIntake.Number.Binary64
import ImageIntake.Number.Layout
import ImageIntake.Number.Plain
import ImageIntake.Number.Power
import ImageIntake.Number.Real
import ImageIntake.Number.Whole
import ImageIntake.Phase
import ImageIntake.Proofs.Agreement
import ImageIntake.Proofs.Cancellation.Release
import ImageIntake.Proofs.Cancellation.Session
import ImageIntake.Proofs.Cli.Showing
import ImageIntake.Proofs.Conversion.Clearing
import ImageIntake.Proofs.Conversion.Noting
import ImageIntake.Proofs.Conversion.ReadingBack
import ImageIntake.Proofs.Endpoint
import ImageIntake.Proofs.Endpoint.Password
import ImageIntake.Proofs.Endpoint.Reading
import ImageIntake.Proofs.Feed
import ImageIntake.Proofs.Files.Directory
import ImageIntake.Proofs.Files.Gzip
import ImageIntake.Proofs.Files.Joining
import ImageIntake.Proofs.Files.Opening
import ImageIntake.Proofs.Files.Plain
import ImageIntake.Proofs.Files.Removal
import ImageIntake.Proofs.Format.Division
import ImageIntake.Proofs.Format.Header
import ImageIntake.Proofs.Format.Reading
import ImageIntake.Proofs.Host.Decoding
import ImageIntake.Proofs.Host.Encoding
import ImageIntake.Proofs.Host.Punycode
import ImageIntake.Proofs.Http.Alike
import ImageIntake.Proofs.Http.Guarded
import ImageIntake.Proofs.Http.Reading
import ImageIntake.Proofs.Http.Settling
import ImageIntake.Proofs.Import.Account
import ImageIntake.Proofs.Import.Conduct
import ImageIntake.Proofs.Import.Disclosure
import ImageIntake.Proofs.Import.Discretion
import ImageIntake.Proofs.Import.Handing
import ImageIntake.Proofs.Import.Keeping
import ImageIntake.Proofs.Import.Landing
import ImageIntake.Proofs.Import.Matching
import ImageIntake.Proofs.Import.Outcome
import ImageIntake.Proofs.Import.Projection
import ImageIntake.Proofs.Import.Tracking
import ImageIntake.Proofs.Job.Keeping
import ImageIntake.Proofs.Job.Lines
import ImageIntake.Proofs.Job.Matching
import ImageIntake.Proofs.Job.Raising
import ImageIntake.Proofs.Job.Stopping
import ImageIntake.Proofs.Job.Success
import ImageIntake.Proofs.Job.Telling
import ImageIntake.Proofs.Json.Fields
import ImageIntake.Proofs.Json.Printing
import ImageIntake.Proofs.Json.Reading
import ImageIntake.Proofs.Log.Directory
import ImageIntake.Proofs.Log.Discretion
import ImageIntake.Proofs.Log.Handlers
import ImageIntake.Proofs.Log.Line
import ImageIntake.Proofs.Log.Masking
import ImageIntake.Proofs.Log.Retention
import ImageIntake.Proofs.Log.SettingUp
import ImageIntake.Proofs.Metrics.Advancing
import ImageIntake.Proofs.Metrics.Occurrence
import ImageIntake.Proofs.Metrics.Percentage
import ImageIntake.Proofs.Metrics.Reporting
import ImageIntake.Proofs.Number.Nearest
import ImageIntake.Proofs.Number.Whole
import ImageIntake.Proofs.Settings
import ImageIntake.Proofs.Site
import ImageIntake.Proofs.Site.Discretion
import ImageIntake.Proofs.Site.Stream
import ImageIntake.Proofs.Source.Abandoning
import ImageIntake.Proofs.Source.Authentication
import ImageIntake.Proofs.Source.Call
import ImageIntake.Proofs.Source.Classification
import ImageIntake.Proofs.Source.Closing
import ImageIntake.Proofs.Source.Escape
import ImageIntake.Proofs.Source.History
import ImageIntake.Proofs.Source.Keeping
import ImageIntake.Proofs.Source.Matching
import ImageIntake.Proofs.Source.Opening
import ImageIntake.Proofs.Source.Operations
import ImageIntake.Proofs.Source.Recognition
import ImageIntake.Proofs.Source.Releasing
import ImageIntake.Proofs.Source.Tracking
import ImageIntake.Proofs.Source.Watched
import ImageIntake.Proofs.Space
import ImageIntake.Proofs.Stream.Buffered
import ImageIntake.Proofs.Text.Ascii
import ImageIntake.Proofs.Text.Base64
import ImageIntake.Proofs.Text.ControlSequence
import ImageIntake.Proofs.Text.DecimalDigit
import ImageIntake.Proofs.Text.LetterCase
import ImageIntake.Proofs.Text.Percent
import ImageIntake.Proofs.Text.Quoted
import ImageIntake.Proofs.Text.RangeTable
import ImageIntake.Proofs.Text.ShellReading
import ImageIntake.Proofs.Text.ShellWords
import ImageIntake.Proofs.Text.Splitting
import ImageIntake.Proofs.Text.Utf8
import ImageIntake.Proofs.Url.Again
import ImageIntake.Proofs.Url.Alike
import ImageIntake.Proofs.Url.Apart
import ImageIntake.Proofs.Url.Credentials
import ImageIntake.Proofs.Url.Making
import ImageIntake.Proofs.Url.Parts
import ImageIntake.Proofs.Url.Path
import ImageIntake.Proofs.Url.Place
import ImageIntake.Settings.Basic
import ImageIntake.Settings.Field
import ImageIntake.Site
import ImageIntake.Source.Basic
import ImageIntake.Source.Driven
import ImageIntake.Source.Opening
import ImageIntake.Space
import ImageIntake.Stream.Buffered
import ImageIntake.Stream.ByteSource
import ImageIntake.Text.Base64
import ImageIntake.Text.Blank
import ImageIntake.Text.ControlSequence
import ImageIntake.Text.DecimalDigit
import ImageIntake.Text.Hex
import ImageIntake.Text.LetterCase
import ImageIntake.Text.LetterCase.Tables
import ImageIntake.Text.Percent
import ImageIntake.Text.Printable
import ImageIntake.Text.Quoted
import ImageIntake.Text.RangeTable
import ImageIntake.Text.ShellWords
import ImageIntake.Text.Utf8
import ImageIntake.Url.Basic
import ImageIntake.Url.Join
import ImageIntake.Url.Parser
import ImageIntake.Vocabulary
