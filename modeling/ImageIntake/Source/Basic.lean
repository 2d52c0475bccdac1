/-
  ImageIntake.Source.Basic

  The data source of an import.  A driver takes it through its phases: the
  stream is classified, the image is converted into scratch space or into its
  destination, and in the end the stream is released.  Every operation answers
  the phase that comes next.  What a source needs of its surroundings is given
  to it, so that each can be replaced.
-/

import ImageIntake.Action
import ImageIntake.Cancellation.Token
import ImageIntake.Conversion.Request
import ImageIntake.Files.Path
import ImageIntake.Log.Record
import ImageIntake.Phase

namespace ImageIntake

open ImageIntake.Log

/-! ## What a source consists of -/

/-- What the readers of a classified stream show. -/
structure Readers where
  compression : Option String
deriving DecidableEq, Repr

/-- What a source needs of its surroundings. -/
structure Collaborators (ω : Type) where
  record : Record → ω → ω
  /-- Builds the readers of the stream, given the length that was reported. -/
  classify : Int → Action ω Readers
  /-- Closes the readers. -/
  closeReaders : Action ω Unit
  /-- Closes the stream as long as it has no readers. -/
  closeStream : Action ω Unit
  /-- The usable bytes at a path. -/
  usableSpace : String → Action ω Int
  /-- Carries a conversion out. -/
  convert : Conversion.Request → Action ω Unit
  /-- Cancels the token. -/
  cancel : Action ω Unit

/-- A source. -/
structure Source where
  /-- The locator of the image, with credentials if there are any. -/
  endpoint : Url
  /-- The length that was reported. -/
  contentLength : Int
  contentType : ContentType
  /-- The directory of the certificate to trust. -/
  certDir : Option String := none
  /-- The name of the file that is written into scratch space. -/
  scratchFileName : String := "tmpimage"
  readers : Option Readers := none
  /-- The locator to read from, known once the stream was classified. -/
  url : Option Url := none
  /-- Whether the stream was released. -/
  released : Bool := false
  once : Cancellation.Once := {}

namespace Source

/-- The directory of a certificate, an empty one counting as none. -/
def trustOf (certDir : Option String) : Option String :=
  certDir.filter (· ≠ "")

/-- A source whose stream has just been opened. -/
def make (endpoint : Url) (contentLength : Int) (contentType : ContentType)
    (certDir : Option String) (scratchFileName : String) : Source :=
  { endpoint, contentLength, contentType, certDir := trustOf certDir, scratchFileName }

/-- Whether a certificate has to be trusted that is not among the usual ones. -/
def customTrust (source : Source) : Bool := source.certDir.isSome

/-! ## Failures and records -/

/-- The failure of content of another type. -/
def unsupportedContent : Failure :=
  .pipeline .unsupportedContentType "This data source only supports kubevirt disk images" none

/-- The failure to classify the stream because of another. -/
def unclassifiable (f : Failure) : Failure :=
  .pipeline .classification ("unable to classify image stream: " ++ f.text) (some f)

/-- The failure of a compression that nbdkit cannot undo. -/
def noFilter (compression : String) : Failure :=
  .pipeline .classification
    ("no nbdkit filter decompresses " ++ Text.quoted compression ++ " images") none

/-- The failure of a scratch directory without space. -/
def noSpace (path : String) : Failure :=
  .pipeline .invalidPath ("scratch path " ++ Text.quoted path ++ " has no usable space") none

/-- The failure of an operation that was called too early. -/
def tooEarly (operation : String) : Failure :=
  .pipeline .phaseOrder (operation ++ "() called before info() completed") none

/-- How a failure to convert is reported: one of the pipeline as it is, and one that asks the
program to end. -/
def notConverted (f : Failure) : Failure :=
  if f.isPipeline || f.endsProgram then f
  else .pipeline .conversion ("conversion failed: " ++ f.text) (some f)

/-- The failure to release the stream because of another. -/
def notReleased (f : Failure) : Failure :=
  .pipeline .resourceRelease ("failed to close readers: " ++ f.text) (some f)

/-- The record of readers that could not be built. -/
def readersFailed (f : Failure) : Record :=
  .of .error "nbdkit_http_source" "info" "error creating readers" [textField "error" f.text]

/-- The record of a classified image. -/
def classified (url : String) (readers : Readers) (contentLength : Int) : Record :=
  .of .info "nbdkit_http_source" "info" "classified remote image"
    [textField "url" url, optionField "compression" readers.compression,
      intField "content_length" contentLength]

/-! ## Filters -/

/-- The filter that undoes a compression, if there is anything to undo. -/
def filterFor (readers : Readers) : Except Failure (Option Filter) :=
  match readers.compression with
  | none => .ok none
  | some word =>
    if word = "xz" then .ok (some .xz)
    else if word = "gz" then .ok (some .gzip)
    else if word = "" then .ok none
    else .error (noFilter word)

/-- The request to convert the image of a source into a destination. -/
def requestFor (source : Source) (operation dest : String) : Except Failure Conversion.Request :=
  match source.readers with
  | none => .error (tooEarly operation)
  | some readers =>
    match Conversion.Request.make source.endpoint dest with
    | .error fault => .error (.outside fault)
    | .ok request =>
      (filterFor readers).map fun filter =>
        { filter.elim request request.addFilter with certDir := source.certDir }

/-! ## Operations -/

variable {ω : Type}

/-- What an operation on a source in surroundings does. -/
abbrev Operation (ω α : Type) := Action (Source × ω) α

/-- Changes the source. -/
def revise (f : Source → Source) : Operation ω Unit :=
  .change fun s => (f s.1, s.2)

/-- Puts something on record. -/
def note (env : Collaborators ω) (r : Record) : Operation ω Unit :=
  .change fun s => (s.1, env.record r s.2)

/-- Builds the readers, unless that has been done. -/
def build (env : Collaborators ω) : Operation ω Readers := do
  let source := (← get).1
  match source.readers with
  | some readers => pure readers
  | none =>
    match ← (Action.second (env.classify source.contentLength)).attempt with
    | .ok readers => do
      revise fun source => { source with readers := some readers }
      pure readers
    | .error f => do
      if f.endsProgram then throw f
      note env (readersFailed f)
      throw (unclassifiable f)

/-- Classifies the image; from then on its locator is known. -/
def info (env : Collaborators ω) : Operation ω Phase := do
  let source := (← get).1
  if source.contentType ≠ .kubevirt then throw unsupportedContent
  let readers ← build env
  let _ ← Action.give (filterFor readers)
  revise fun source => { source with url := some (source.url.getD source.endpoint) }
  let url ← Action.give (source.endpoint.redacted.mapError .outside)
  note env (classified url readers source.contentLength)
  pure .transferDataFile

/-- Converts the image into a destination. -/
def convertTo (env : Collaborators ω) (operation dest : String) : Operation ω Phase := do
  let source := (← get).1
  let request ← Action.give (source.requestFor operation dest)
  match ← (Action.second (env.convert request)).attempt with
  | .ok () => pure .resize
  | .error f => throw (notConverted f)

/-- Converts the image into a file inside scratch space. -/
def transfer (env : Collaborators ω) (path : String) : Operation ω Phase := do
  let size ← Action.second (env.usableSpace path)
  if size ≤ 0 then throw (noSpace path)
  let source := (← get).1
  convertTo env "transfer" (Files.joinText path source.scratchFileName)

/-- Converts the image into a file, whatever space there is. -/
def transferFile (env : Collaborators ω) (path : String) : Operation ω Phase :=
  convertTo env "transfer_file" path

/-- Nothing is left to be done to the data. -/
def process : Operation ω Phase := pure .convert

/-- Uses the single-fire cancellation; answers whether this was the first time.  It counts as used
only once the token is cancelled with all that it held. -/
def cancel (env : Collaborators ω) : Operation ω Bool := do
  let source := (← get).1
  if source.once.fired then pure false
  else do
    Action.second env.cancel
    revise fun source => { source with once := ⟨true⟩ }
    pure true

/-- Releases the stream, the first time this is asked for. -/
def release (env : Collaborators ω) : Operation ω Unit := do
  let source := (← get).1
  if source.released then pure ()
  else do
    revise fun source => { source with released := true }
    if source.readers.isSome then Action.second env.closeReaders
    else Action.second env.closeStream

/-- Releases the stream and cancels the token; a failure to release is reported afterwards. -/
def close (env : Collaborators ω) : Operation ω Unit := do
  let outcome ← (release env).attempt
  if let .error f := outcome then if f.endsProgram then throw f
  let _ ← cancel env
  Action.give (outcome.mapError notReleased)

/-- Does something with a source that is closed in the end. -/
def within {α : Type} (env : Collaborators ω) (body : Operation ω α) : Operation ω α := do
  let outcome ← body.attempt
  close env
  Action.give outcome

end Source

end ImageIntake
