/-
  ImageIntake.Fault

  What goes wrong outside the pipeline's own rules: the operating system
  refuses, an exchange with the server fails, a stream is misused, a library
  rejects a value.  A fault has the name it is reported under and a wording; the
  family decides who handles it.
-/

import ImageIntake.Text.Quoted
import ImageIntake.Vocabulary

namespace ImageIntake

open ImageIntake.Text

/-! ## Faults -/

/-- A field of the settings that was refused, and the rule it broke. -/
structure Issue where
  field : String
  rule : String
deriving DecidableEq, Repr

/-- A fault, by family. -/
inductive Fault where
  /-- The operating system refused something. -/
  | system (name text : String)
  /-- An exchange with a server failed. -/
  | transport (name text : String)
  /-- The stream of a response was misused. -/
  | stream (name text : String)
  /-- The settings were refused. -/
  | settings (issues : List Issue)
  /-- A library refused a value, in words that are not reported. -/
  | library (name : String)
  /-- Anything else. -/
  | other (name text : String)
deriving DecidableEq, Repr

namespace Fault

/-- The name a fault is reported under. -/
def name : Fault → String
  | .system name _ => name
  | .transport name _ => name
  | .stream name _ => name
  | .settings _ => "ValidationError"
  | .library name => name
  | .other name _ => name

/-- The wording of a fault. -/
def text : Fault → String
  | .system _ text => text
  | .transport _ text => text
  | .stream _ text => text
  | .settings _ => ""
  | .library _ => ""
  | .other _ text => text

/-- Whether the operating system refused. -/
def isSystem : Fault → Bool
  | .system .. => true
  | _ => false

/-- Whether an exchange with a server failed. -/
def isTransport : Fault → Bool
  | .transport .. => true
  | _ => false

/-- Whether reading a body ends in a read error: the exchange failed or the stream was misused. -/
def endsRead : Fault → Bool
  | .transport .. => true
  | .stream .. => true
  | _ => false

/-- The names of faults that ask the program to end. -/
def endingNames : List String := ["GeneratorExit", "KeyboardInterrupt", "SystemExit"]

/-- Whether a fault asks the program to end.  No operation takes such a fault for its own. -/
def endsProgram (f : Fault) : Bool := endingNames.contains f.name

/-! ## Values and types -/

/-- A value that is not acceptable. -/
def value (text : String) : Fault := .other "ValueError" text

/-- A value of the wrong type. -/
def typeMismatch (text : String) : Fault := .other "TypeError" text

/-- A number out of range. -/
def overflow (text : String) : Fault := .other "OverflowError" text

/-- A word that is not in a vocabulary. -/
def notInVocabulary (word title : String) : Fault :=
  .value (quoted word ++ " is not a valid " ++ title)

/-- A text that is no locator. -/
def invalidUrl : Fault := .library "InvalidURL"

/-! ## The operating system -/

/-- The name under which a numbered refusal of the operating system is reported. -/
def systemName (number : Int) : String :=
  match number with
  | 1 | 13 => "PermissionError"
  | 2 => "FileNotFoundError"
  | 3 => "ProcessLookupError"
  | 4 => "InterruptedError"
  | 10 => "ChildProcessError"
  | 11 | 114 | 115 => "BlockingIOError"
  | 17 => "FileExistsError"
  | 20 => "NotADirectoryError"
  | 21 => "IsADirectoryError"
  | 32 | 108 => "BrokenPipeError"
  | 103 => "ConnectionAbortedError"
  | 104 => "ConnectionResetError"
  | 110 => "TimeoutError"
  | 111 => "ConnectionRefusedError"
  | _ => "OSError"

/-- A numbered refusal. -/
def numbered (number : Int) (text : String) : Fault :=
  .system (systemName number) ("[Errno " ++ toString number ++ "] " ++ text)

/-- A refusal without a number. -/
def unnumbered (text : String) : Fault := .system "OSError" text

/-! ## Names -/

/-- The names of refusals of the operating system. -/
def systemNames : List String :=
  ["OSError", "BlockingIOError", "ChildProcessError", "ConnectionError", "BrokenPipeError",
    "ConnectionAbortedError", "ConnectionRefusedError", "ConnectionResetError", "FileExistsError",
    "FileNotFoundError", "InterruptedError", "IsADirectoryError", "NotADirectoryError",
    "PermissionError", "ProcessLookupError", "TimeoutError"]

/-- The names of failed exchanges. -/
def transportNames : List String :=
  ["HTTPError", "RequestError", "TimeoutException", "ConnectTimeout", "ReadTimeout", "WriteTimeout",
    "PoolTimeout", "NetworkError", "ConnectError", "ReadError", "WriteError", "CloseError",
    "ProtocolError", "LocalProtocolError", "RemoteProtocolError", "ProxyError",
    "UnsupportedProtocol", "DecodingError", "TooManyRedirects", "HTTPStatusError"]

/-- The names of misuses of a response's stream. -/
def streamNames : List String :=
  ["StreamError", "StreamConsumed", "StreamClosed", "ResponseNotRead", "RequestNotRead"]

/-- The names of values that libraries refuse in their own words. -/
def libraryNames : List String :=
  ["InvalidURL", "IDNAError", "IDNABidiError", "InvalidCodepoint", "InvalidCodepointContext",
    "DuplicateTimeseries", "CookieConflict"]

/-- The fault of a name and a wording; the wording of a missing key quotes the key. -/
def ofName (name text : String) : Fault :=
  if systemNames.contains name then .system name text
  else if transportNames.contains name then .transport name text
  else if streamNames.contains name then .stream name text
  else if libraryNames.contains name then .library name
  else if name = "KeyError" then .other name (quoted text)
  else .other name text

/-! ## Reading from streams -/

/-- Looking at the head of a closed stream. -/
def peekOfClosed : Fault := .value "peek of closed file"

/-- Reading from a closed stream. -/
def readOfClosed : Fault := .value "read of closed file"

/-- Using a closed stream. -/
def closedFile : Fault := .value "I/O operation on closed file."

/-- A path that holds a NUL. -/
def embeddedNul : Fault := .value "embedded null byte"

end Fault

/-- Reads a word of a vocabulary. -/
def Vocabulary.read {α : Type} (v : Vocabulary α) (word : String) : Except Fault α :=
  match v.read? word with
  | some value => .ok value
  | none => .error (.notInVocabulary word v.title)

end ImageIntake
