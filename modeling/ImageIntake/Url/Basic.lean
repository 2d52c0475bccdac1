/-
  ImageIntake.Url.Basic

  Uniform resource locators as their parts, with every part in its escaped form,
  and the text of them.
-/

import ImageIntake.Text.Percent

namespace ImageIntake

/-- A locator.  The host is kept without the brackets of an IPv6 address. -/
structure Url where
  scheme : String := ""
  userinfo : String := ""
  host : String := ""
  port : Option Int := none
  path : String := ""
  query : Option String := none
  fragment : Option String := none
deriving DecidableEq, Repr

instance : Inhabited Url := ⟨{}⟩

namespace Url

/-! ## Text -/

/-- The host as it is printed: an address with colons stands in brackets. -/
def printedHost (url : Url) : String :=
  if url.host.toList.contains ':' then "[" ++ url.host ++ "]" else url.host

/-- A port behind its colon, if there is one. -/
def printedPort (url : Url) : String :=
  match url.port with
  | some port => ":" ++ toString port
  | none => ""

/-- The place that answers: host and port. -/
def place (url : Url) : String := url.printedHost ++ url.printedPort

/-- User information, host and port. -/
def authority (url : Url) : String :=
  (if url.userinfo = "" then "" else url.userinfo ++ "@") ++ url.place

/-- The text of a locator. -/
def print (url : Url) : String :=
  (if url.scheme = "" then "" else url.scheme ++ ":") ++
  (if url.authority = "" then "" else "//" ++ url.authority) ++
  url.path ++
  (match url.query with
    | some query => "?" ++ query
    | none => "") ++
  (match url.fragment with
    | some fragment => "#" ++ fragment
    | none => "")

/-! ## Credentials -/

/-- User information before its first colon, and after it. -/
def userinfoParts (url : Url) : List Char × List Char :=
  match url.userinfo.toList.span (· ≠ ':') with
  | (user, rest) => (user, rest.drop 1)

/-- The user name, unescaped. -/
def username (url : Url) : String :=
  Text.percentDecode (String.ofList url.userinfoParts.1)

/-- The password, unescaped. -/
def password (url : Url) : String :=
  Text.percentDecode (String.ofList url.userinfoParts.2)

/-! ## Ports -/

/-- The port a scheme uses when none is given. -/
def defaultPort? (scheme : String) : Option Int :=
  match scheme with
  | "ftp" => some 21
  | "http" | "ws" => some 80
  | "https" | "wss" => some 443
  | _ => none

/-- The schemes whose locators tell the port they mean without naming it. -/
def webSchemes : List String := ["http", "https"]

/-- The port in effect: the one given, or else that of a web scheme. -/
def effectivePort (url : Url) : Option Int :=
  url.port.or (if webSchemes.contains url.scheme then defaultPort? url.scheme else none)

end Url

end ImageIntake
