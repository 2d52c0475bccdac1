/-
  ImageIntake.Endpoint

  The endpoint an image is fetched from: reading it, putting credentials into
  its locator, and printing it for logs without the password.
-/

import ImageIntake.Failure
import ImageIntake.Text.Blank
import ImageIntake.Url.Parser

namespace ImageIntake

open ImageIntake.Text

/-! ## Reading an endpoint -/

namespace Endpoint

/-- The schemes that can be fetched. -/
def supportedSchemes : List String := ["http", "https"]

/-- A failure to read an endpoint. -/
def invalid (message : String) (cause : Option Failure) : Failure :=
  .pipeline .invalidEndpoint message cause

/-- Reads an endpoint: a locator with a supported scheme and a host, white space around it
ignored.  An encoded host name that cannot be decoded is a fault of its own. -/
def read (text : String) : Except Failure Url :=
  if allBlank text then .error (invalid "endpoint is missing or blank" none)
  else match Url.parse (trim text) with
    | .error _ =>
      .error (invalid ("unable to parse endpoint " ++ quoted text) (some (.outside .invalidUrl)))
    | .ok url =>
      if !supportedSchemes.contains url.scheme then
        .error (invalid ("unsupported endpoint scheme " ++ quoted url.scheme) none)
      else match url.unicodeHost with
        | .error fault => .error (.outside (.library fault.name))
        | .ok host =>
          if host = "" then .error (invalid ("endpoint " ++ quoted text ++ " has no host") none)
          else .ok url

end Endpoint

/-! ## Credentials -/

namespace Url

/-- The same locator with a pair of keys as its credentials, if both are given and not empty. -/
def withKeys (url : Url) (accessKey secretKey : Option String) : Except Fault Url :=
  match accessKey, secretKey with
  | some access, some secret =>
    if access ≠ "" ∧ secret ≠ "" then
      (url.withUserinfo access secret).mapError fun _ => .invalidUrl
    else .ok url
  | _, _ => .ok url

/-- What stands for a password in logs. -/
def redaction : String := "redacted"

/-- The locator with any password replaced. -/
def withoutPassword (url : Url) : Except Fault Url :=
  if url.password = "" then .ok url
  else (url.withUserinfo url.username redaction).mapError fun _ => .invalidUrl

/-- The text of a locator for logs. -/
def redacted (url : Url) : Except Fault String :=
  url.withoutPassword.map print

end Url

end ImageIntake
