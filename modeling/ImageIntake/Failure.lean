/-
  ImageIntake.Failure

  The failures that leave the library's operations: those of the pipeline, each
  of a kind that a driver records; those of a converter process; and faults from
  outside.  A failure may carry the one that caused it.
-/

import ImageIntake.Fault
import ImageIntake.Phase

namespace ImageIntake

/-! ## Kinds -/

/-- The taxonomy a driver records. -/
inductive FailureKind where
  | invalidPath
  | unsupportedContentType
  | classificationFailed
  | conversionFailed
  | resourceReleaseFailed
  | invalidEndpoint
  | transportFailed
  | phaseOrder
deriving DecidableEq, Repr

/-- The kinds by name. -/
def FailureKind.vocabulary : Vocabulary FailureKind where
  title := "ErrorKind"
  terms := [
    ⟨.invalidPath, "INVALID_PATH", "InvalidPath"⟩,
    ⟨.unsupportedContentType, "UNSUPPORTED_CONTENT_TYPE", "UnsupportedContentType"⟩,
    ⟨.classificationFailed, "CLASSIFICATION_FAILED", "ClassificationFailed"⟩,
    ⟨.conversionFailed, "CONVERSION_FAILED", "ConversionFailed"⟩,
    ⟨.resourceReleaseFailed, "RESOURCE_RELEASE_FAILED", "ResourceReleaseFailed"⟩,
    ⟨.invalidEndpoint, "INVALID_ENDPOINT", "InvalidEndpoint"⟩,
    ⟨.transportFailed, "TRANSPORT_FAILED", "TransportFailed"⟩,
    ⟨.phaseOrder, "PHASE_ORDER", "PhaseOrder"⟩]

/-- The word of a kind. -/
def FailureKind.word (kind : FailureKind) : String := FailureKind.vocabulary.word kind

/-! ## Troubles of the pipeline -/

/-- Which rule of the pipeline was broken. -/
inductive Trouble where
  /-- A failure of no particular sort. -/
  | general
  /-- The endpoint cannot be read as a supported locator. -/
  | invalidEndpoint
  /-- The reader of the endpoint cannot be opened; `status` is that of the response, if any. -/
  | transport (status : Option Int)
  /-- The scratch directory has no usable space. -/
  | invalidPath
  /-- The declared content type cannot be handled. -/
  | unsupportedContentType
  /-- The stream cannot be classified. -/
  | classification
  /-- The converter failed. -/
  | conversion
  /-- The readers could not be released. -/
  | resourceRelease
  /-- A conversion was asked for before the stream was classified. -/
  | phaseOrder
deriving DecidableEq, Repr

namespace Trouble

/-- The kind a driver records. -/
def kind : Trouble → FailureKind
  | .general => .conversionFailed
  | .invalidEndpoint => .invalidEndpoint
  | .transport _ => .transportFailed
  | .invalidPath => .invalidPath
  | .unsupportedContentType => .unsupportedContentType
  | .classification => .classificationFailed
  | .conversion => .conversionFailed
  | .resourceRelease => .resourceReleaseFailed
  | .phaseOrder => .phaseOrder

/-- The phase a driver records: every trouble ends an import. -/
def phase (_ : Trouble) : Phase := .error

/-- The name a trouble is reported under. -/
def name : Trouble → String
  | .general => "ImportPipelineError"
  | .invalidEndpoint => "InvalidEndpointError"
  | .transport _ => "TransportError"
  | .invalidPath => "InvalidPathError"
  | .unsupportedContentType => "UnsupportedContentTypeError"
  | .classification => "ClassificationError"
  | .conversion => "ConversionError"
  | .resourceRelease => "ResourceReleaseError"
  | .phaseOrder => "PhaseOrderError"

/-- The trouble reported under a name, with the status of a response where one belongs. -/
def ofName? (status : Option Int) (name : String) : Option Trouble :=
  [.general, .invalidEndpoint, .transport status, .invalidPath, .unsupportedContentType,
    .classification, .conversion, .resourceRelease, .phaseOrder].find? (·.name == name)

end Trouble

/-! ## Failures -/

/-- What is known of a process that failed: its command line, its status if it started, and the
last lines of its output. -/
structure ProcessReport where
  command : List String
  status : Option Int
  output : List String
deriving DecidableEq, Repr

/-- A failure, with the failure that caused it where one did. -/
inductive Failure where
  | pipeline (trouble : Trouble) (message : String) (cause : Option Failure)
  | process (message : String) (report : ProcessReport) (cause : Option Failure)
  | outside (fault : Fault)

namespace Failure

instance : Inhabited Failure := ⟨.outside (.other "" "")⟩

/-- The wording of a failure. -/
def text : Failure → String
  | .pipeline _ message _ => message
  | .process message _ _ => message
  | .outside fault => fault.text

/-- The failure that caused this one. -/
def cause : Failure → Option Failure
  | .pipeline _ _ cause => cause
  | .process _ _ cause => cause
  | .outside _ => none

/-- The trouble of a pipeline failure. -/
def trouble? : Failure → Option Trouble
  | .pipeline trouble _ _ => some trouble
  | _ => none

/-- Whether the failure is one of the pipeline's. -/
def isPipeline (f : Failure) : Bool := f.trouble?.isSome

/-- The kind of a pipeline failure. -/
def kind? (f : Failure) : Option FailureKind := f.trouble?.map Trouble.kind

/-- The phase a driver records for a pipeline failure. -/
def phase? (f : Failure) : Option Phase := f.trouble?.map Trouble.phase

/-- The fault of a failure from outside. -/
def fault? : Failure → Option Fault
  | .outside fault => some fault
  | _ => none

/-- Whether the operating system refused. -/
def isSystem (f : Failure) : Bool := (f.fault?.map Fault.isSystem).getD false

/-- Whether an exchange with a server failed. -/
def isTransport (f : Failure) : Bool := (f.fault?.map Fault.isTransport).getD false

/-- Whether the failure asks the program to end. -/
def endsProgram (f : Failure) : Bool := (f.fault?.map Fault.endsProgram).getD false

/-- What asks the program to end is no failure of the pipeline. -/
theorem kind?_of_endsProgram {f : Failure} (h : f.endsProgram = true) : f.kind? = none := by
  cases f with
  | pipeline => cases h
  | process => cases h
  | outside => rfl

/-- The name a failure is reported under. -/
def name : Failure → String
  | .pipeline trouble _ _ => trouble.name
  | .process .. => "ProcessExecutionError"
  | .outside fault => fault.name

end Failure

end ImageIntake
